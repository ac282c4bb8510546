/-
  The clock and the network of a host.
-/
import Relaunch.Host.Basic

namespace Relaunch.Host

/-- A sum that fails when an integer is too large to meet a double. -/
def sum (a b : Number) : Session Number :=
  match a.add? b with
  | some n => pure n
  | none => throw .intTooLarge

/-- Let the clock advance. -/
def advance (seconds : Number) : Session Unit := do
  let clock ← sum (← get).clock seconds
  modify fun host => { host with clock }

/-- The reading of the clock, which takes a tick. -/
def readClock : Session Number := do
  let host ← get
  advance host.tick
  pure host.clock

/-- Sleep. -/
def sleep (seconds : Number) : Session Unit := do
  note (.sleep seconds)
  advance seconds

/-- What an attempt to connect meets when nothing else is due. -/
def refused : Fault := .numbered 111 "Connection refused" none

/-- Open a connection. -/
def connect (target : String) (port : Int) (timeout : Number) : Session Unit := do
  note (.connect target port timeout)
  advance (← get).connectCost
  let host ← get
  set { host with connections := host.connections.tail }
  meet (host.connections.head?.getD (some refused))

/-- Close the open connection. -/
def close : Session Unit := note .close

end Relaunch.Host
