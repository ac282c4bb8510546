/-
  Work that leaves the processes alone.

  Much of what the supervisor does has nothing to do with the process table: it talks, connects,
  sleeps.  `Aside before after` says so of a piece of work: the table and everything that finding and
  starting processes depends on are as before, and the dealings that were added are incidental ones.

  A probe is such work, however often it tries (`probe_aside`).  It is even less, a mere `Passage` of
  time with attempts to connect in it (`probe_passes`): that relation is reflexive and transitive, so
  that `Keeps` carries it from the steps to whatever is built of them.
-/
import Relaunch.Proofs.Course
import Relaunch.Restart

namespace Relaunch

open Relaunch.Host

/-! ## Work aside -/

/-- Is this a dealing that concerns no process? -/
def Call.incidental : Call → Bool
  | .scan | .signal _ _ | .wait _ _ | .spawn _ => false
  | _ => true

/-- Between the two hosts there was only work that leaves the processes alone. -/
structure Aside (before after : Host) : Prop where
  processes : after.processes = before.processes
  scans : after.scans = before.scans
  nextPid : after.nextPid = before.nextPid
  givens : after.givens = before.givens
  calls : ∃ more, after.calls.toList = before.calls.toList ++ more ∧
    ∀ call ∈ more, call.incidental = true

/-! ## Time that passes -/

/-- The host with its clock, its connections and its dealings as another host has them. -/
def Host.withPassageOf (host other : Host) : Host :=
  { host with clock := other.clock, connections := other.connections, calls := other.calls }

/-- Between the two hosts time passed, with attempts to connect in it, and something may have been
said.  Nothing else changed. -/
structure Passage (before after : Host) : Prop where
  frame : Alike after (before.withPassageOf after)
  calls : ∃ more, after.calls.toList = before.calls.toList ++ more ∧
    ∀ call ∈ more, call.incidental = true

namespace Passage

/-- No time need have passed. -/
theorem refl (host : Host) : Passage host host := ⟨rfl, [], by simp, by simp⟩

/-- One passage after another is a passage: their dealings follow each other. -/
theorem trans {a b c : Host} (h : Passage a b) (h' : Passage b c) : Passage a c := by
  -- What the first passage changed is overwritten by what the second one did.
  obtain ⟨more, hmore, hall⟩ := h.calls
  obtain ⟨more', hmore', hall'⟩ := h'.calls
  refine ⟨h'.frame.trans (h.frame.step fun host => host.withPassageOf c), more ++ more', ?_, ?_⟩
  · rw [hmore', hmore, List.append_assoc]
  · intro call hcall
    rcases List.mem_append.mp hcall with hcall | hcall
    · exact hall call hcall
    · exact hall' call hcall

instance : Std.Refl Passage := ⟨refl⟩

instance : Trans Passage Passage Passage := ⟨trans⟩

/-- Where only something was said, no time passed. -/
theorem of_alike {a b : Host} (h : Alike b a) : Passage a b := by
  refine ⟨?_, [], by simp [h.view Host.calls], by simp⟩
  rw [withPassageOf, h.view Host.clock, h.view Host.connections, h.view Host.calls]
  exact h

/-- A change of the clock or of the connections is a passage of time. -/
theorem of_same {a b : Host} (frame : b = a.withPassageOf b) (calls : b.calls = a.calls) :
    Passage a b :=
  ⟨congrArg Host.silenced frame, [], by simp [calls], by simp⟩

/-- Whoever does no more than let time pass leaves the processes alone. -/
theorem aside {a b : Host} (h : Passage a b) : Aside a b :=
  ⟨h.frame.view Host.processes, h.frame.view Host.scans, h.frame.view Host.nextPid,
    h.frame.view Host.givens, h.calls⟩

/-- The limits on open files are no part of what passes. -/
theorem limits {a b : Host} (h : Passage a b) : b.limits = a.limits := h.frame.view Host.limits

end Passage

/-! ## Steps that take time -/

theorem say_passes (level : Level) (speaker message : String) :
    Keeps Passage (say level speaker message) :=
  fun host => .of_alike (said_alike level speaker message host)

/-- A dealing may be kept on the way if it concerns no process. -/
theorem note_passes {call : Call} (h : call.incidental = true) : Keeps Passage (note call) :=
  fun host => ⟨rfl, [call], by simp, by simp [h]⟩

/-- Even a clock that gets stuck, at a sum that is too large, leaves all else as it was. -/
theorem advance_passes (seconds : Number) : Keeps Passage (advance seconds) := by
  intro host
  rw [advance, ends_bind, ends_get, ends_bind, sum]
  split
  · exact .of_same rfl rfl
  · exact .refl host

/-- Reading the clock takes its tick. -/
theorem readClock_passes : Keeps Passage readClock :=
  Keeps.get.bind fun host => (advance_passes host.tick).bind fun _ => .pure _

theorem sleep_passes (seconds : Number) : Keeps Passage (Host.sleep seconds) :=
  (note_passes rfl).bind fun _ => advance_passes seconds

/-- An attempt to connect uses up the connection that was due, whether it was a fault or a
success. -/
theorem connect_passes (target : String) (port : Int) (timeout : Number) :
    Keeps Passage (connect target port timeout) :=
  (note_passes rfl).bind fun _ => Keeps.get.bind fun host =>
    (advance_passes _).bind fun _ host => by
      rw [ends_bind, ends_get, ends_bind, ends_set, ends_meet]
      exact ⟨fun _ => .of_same rfl rfl, fun _ _ => .of_same rfl rfl⟩

/-- A system fault is an answer, and any other goes on; time passed either way. -/
theorem isOpen_passes (target : String) (port : Int) (timeout : Number) :
    Keeps Passage (Probe.isOpen target port timeout) := by
  refine Keeps.tryCatch ((connect_passes target port timeout).bind fun _ =>
    (note_passes rfl).bind fun _ => .pure _) fun fault => ?_
  split
  · exact .pure _
  · exact .throw _

/-! ## Probes -/

/-- However often a probe tries, it only knocks and sleeps. -/
theorem poll_passes (probe : Probe) (deadline : Number) : ∀ remaining,
    Keeps Passage (probe.poll deadline remaining) := by
  intro remaining
  induction remaining with
  | zero => exact .throw _
  | succ remaining ih =>
    -- Whether it stops or goes on is for the clock to say; time passes anyway.
    refine (isOpen_passes _ _ _).bind fun opened => ?_
    cases opened with
    | true => exact (say_passes _ _ _).bind fun _ => .pure _
    | false =>
      refine readClock_passes.bind fun clock => ?_
      split
      · exact (say_passes _ _ _).bind fun _ => .pure _
      · exact (sleep_passes _).bind fun _ => ih

/-- A service without a port is not probed, and then no time passes at all. -/
theorem probe_passes (health : Option Probe) : Keeps Passage (Restart.probe health) := by
  cases health with
  | none => exact .pure _
  | some probe =>
    refine Keeps.bind ?_ fun _ => .pure _
    -- The deadline is a sum, and may be too large to be one.
    refine readClock_passes.bind fun clock => Keeps.bind (fun host => ?_) fun deadline =>
      Keeps.get.bind fun host => poll_passes probe deadline _
    rw [sum]
    split
    · exact .refl host
    · exact .refl host

/-- **A probe leaves the processes alone.** -/
theorem probe_aside (health : Option Probe) : Keeps Aside (Restart.probe health) :=
  (probe_passes health).imp fun _ _ h => h.aside

end Relaunch
