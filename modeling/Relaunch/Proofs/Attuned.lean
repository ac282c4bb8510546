/-
  Time and the network on related hosts.

  Related hosts are `Attuned` if they show the same time, meet the same connections and stay related
  while time passes, connections are attempted and things are said.  That is all that a probe depends
  on, so a probe does the same on attuned hosts (`Attuned.probe`).
-/
import Relaunch.Proofs.Escapes
import Relaunch.Proofs.Pairs

namespace Relaunch

/-- Related hosts keep the same time and have the same connections before them, whatever else tells
them apart. -/
structure Attuned (related : Host → Host → Prop) : Prop where
  clock : ∀ a b, related a b → b.clock = a.clock
  tick : ∀ a b, related a b → b.tick = a.tick
  connectCost : ∀ a b, related a b → b.connectCost = a.connectCost
  connections : ∀ a b, related a b → b.connections = a.connections
  probeLimit : ∀ a b, related a b → b.probeLimit = a.probeLimit
  /-- Time may pass. -/
  passing : ∀ (clock : Number) (a b : Host), related a b → related { a with clock } { b with clock }
  /-- Connections may be taken up. -/
  taking : ∀ a b, related a b → related { a with connections := a.connections.tail }
    { b with connections := b.connections.tail }
  say : ∀ level speaker message, Respects related (Host.say level speaker message)
  /-- A dealing may be kept that starts no executable. -/
  note : ∀ call, Restart.spawns call = false → Respects related (Host.note call)

/-- What meets a session is no part of the hosts. -/
theorem Respects.meet {related : Host → Host → Prop} (fault : Option Fault) :
    Respects related (Host.meet fault) := by
  cases fault with
  | none => exact .pure _
  | some f => exact .throw f

/-- A sum of two numbers fails or not whatever the host is. -/
theorem Respects.sum {related : Host → Host → Prop} (a b : Number) :
    Respects related (Host.sum a b) := by
  unfold Host.sum
  split
  · exact .pure _
  · exact .throw _

namespace Attuned

variable {related : Host → Host → Prop}

/-- The clocks agree before, so they agree after. -/
theorem advance (h : Attuned related) (seconds : Number) :
    Respects related (Host.advance seconds) := by
  refine Respects.get (fun a b hab => ?_) fun host =>
    (Respects.sum host.clock seconds).bind fun clock => Respects.modify (h.passing clock)
  rw [h.clock a b hab]

theorem readClock (h : Attuned related) : Respects related Host.readClock := by
  refine Respects.get (fun a b hab => ?_) fun host => (h.advance host.tick).bind fun _ => .pure _
  rw [h.clock a b hab, h.tick a b hab]

theorem sleep (h : Attuned related) (seconds : Number) : Respects related (Host.sleep seconds) :=
  (h.note (.sleep seconds) rfl).bind fun _ => h.advance seconds

/-- The connection that is due is the same on both, and is taken out of both queues. -/
theorem connect (h : Attuned related) (target : String) (port : Int) (timeout : Number) :
    Respects related (Host.connect target port timeout) := by
  refine (h.note (.connect target port timeout) rfl).bind fun _ => Respects.get (fun a b hab => ?_)
    fun host => (h.advance host.connectCost).bind fun _ =>
      Respects.get_set h.taking (fun a b hab => ?_) fun host => .meet _
  · rw [h.connectCost a b hab]
  · rw [h.connections a b hab]

theorem isOpen (h : Attuned related) (target : String) (port : Int) (timeout : Number) :
    Respects related (Probe.isOpen target port timeout) := by
  refine Respects.tryCatch ((h.connect target port timeout).bind fun _ =>
    (h.note .close rfl).bind fun _ => .pure _) fun fault => ?_
  split
  · exact .pure _
  · exact .throw _

/-- By induction on the attempts that are left: both stop at the same one, with the same answer. -/
theorem poll (h : Attuned related) (probe : Probe) (deadline : Number) : ∀ remaining,
    Respects related (probe.poll deadline remaining) := by
  intro remaining
  induction remaining with
  | zero => exact .throw _
  | succ remaining ih =>
    -- Going on is for the answer and the clock to say, and those are the same on both.
    refine (h.isOpen _ _ _).bind fun opened => ?_
    cases opened with
    | true => exact (h.say _ _ _).bind fun _ => .pure _
    | false =>
      refine h.readClock.bind fun clock => ?_
      split
      · exact (h.say _ _ _).bind fun _ => .pure _
      · exact (h.sleep _).bind fun _ => ih

/-- A probe does the same on attuned hosts. -/
theorem probe (h : Attuned related) (health : Option Probe) :
    Respects related (Restart.probe health) := by
  cases health with
  | none => exact .pure _
  | some probe =>
    refine Respects.bind (h.readClock.bind fun clock => (Respects.sum _ _).bind fun deadline =>
      Respects.get (fun a b hab => ?_) fun host => h.poll probe deadline host.probeLimit)
      fun _ => .pure _
    rw [h.probeLimit a b hab]

end Attuned

end Relaunch
