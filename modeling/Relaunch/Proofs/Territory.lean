/-
  What the journal does to the files.

  A journal with a log of its own writes to that log, and rotates it, whenever something is said.  So
  it takes the places of the log and of the older logs (`Journal.Takes`), and elsewhere nobody notices
  that anything was said (`said_sameAt_of_not_takes`).  All of them stand in the directory of the log,
  so that directory is the journal's own (`Journal.Owns`), which is often all there is to know
  (`said_sameAt`).
-/
import Relaunch.Proofs.Places
import Relaunch.Proofs.Steps

namespace Relaunch

open Relaunch.FileTree

/-! ## A log that rotates -/

namespace LogFile

variable {log : LogFile} {place : Place}

/-- The directory that the log and the older logs stand in. -/
def directory (log : LogFile) : Place := log.place.dropLast

theorem place_inside (log : LogFile) : Inside log.directory log.place :=
  List.dropLast_prefix log.place

/-- The older logs stand beside the log. -/
theorem backup_inside (log : LogFile) : ∀ n, Inside log.directory (log.backup n)
  | 0 => log.place_inside
  | _ + 1 => List.prefix_append _ _

/-- Does the place belong to the log: is it the log, or one of the older logs, or below one of those
places? -/
def Takes (log : LogFile) (place : Place) : Prop :=
  ∃ n ≤ log.backups.toNat, Inside (log.backup n) place

/-- The log and its older files stand in one directory. -/
theorem Takes.inside (h : log.Takes place) : Inside log.directory place := by
  obtain ⟨n, -, hinside⟩ := h
  exact (log.backup_inside n).trans hinside

theorem place_takes (log : LogFile) : log.Takes log.place :=
  ⟨0, Nat.zero_le _, List.prefix_refl _⟩

/-- By induction on the older files that are moved on, the oldest first. -/
theorem shift_sameAt (apart : ¬log.Takes place) : ∀ (count : Nat) (tree : FileTree),
    count ≤ log.backups.toNat → SameAt tree (log.shift count tree).1 place := by
  intro count
  induction count with
  | zero =>
    intro tree _
    exact .refl tree place
  | succ n ih =>
    intro tree hcount
    rw [shift]
    cases hmove : tree.moveOver? (log.backup n) (log.backup (n + 1)) with
    | none => exact .refl tree place
    | some moved =>
      have hmoved : SameAt tree moved place :=
        moveOver?_sameAt (fun h => apart ⟨n, by omega, h⟩) (fun h => apart ⟨n + 1, hcount, h⟩) hmove
      exact hmoved.trans (ih moved (by omega))

/-- However the room is made, no other place is touched for it. -/
theorem makeRoom_sameAt (apart : ¬log.Takes place) (length : Nat) (tree : FileTree) :
    SameAt tree (log.makeRoom length tree).1 place := by
  unfold makeRoom
  split
  · exact shift_sameAt apart _ tree (Nat.le_refl _)
  · exact .refl tree place

/-- Writing a line to a log is noticed where the log and the older logs stand, and nowhere else. -/
theorem writeLine_sameAt (apart : ¬log.Takes place) (line : String) (tree : FileTree) :
    SameAt tree (log.writeLine line tree).1 place := by
  have hroom := makeRoom_sameAt apart (line ++ "\n").length tree
  have hne : place ≠ log.place := fun heq => apart (heq ▸ log.place_takes)
  unfold writeLine
  dsimp only
  split
  · rename_i room hmade
    rw [hmade] at hroom
    exact hroom.trans (append_sameAt _ hne)
  · rename_i room hmade
    rw [hmade] at hroom
    exact hroom

end LogFile

/-! ## The journal's own places -/

namespace Journal

variable {journal : Journal} {place : Place}

/-- Does the place belong to one of the journal's logs? -/
def Takes (journal : Journal) (place : Place) : Prop :=
  ∃ log, .file log ∈ journal.handlers ∧ log.Takes place

/-- Does the place lie in the directory of one of the journal's logs? -/
def Owns (journal : Journal) (place : Place) : Prop :=
  ∃ log, .file log ∈ journal.handlers ∧ Inside log.directory place

/-- What the journal takes is its own. -/
theorem Takes.owns (h : journal.Takes place) : journal.Owns place := by
  obtain ⟨log, hmem, htakes⟩ := h
  exact ⟨log, hmem, htakes.inside⟩

end Journal

namespace Host

variable {place : Place}

/-- A handler writes where its log is, or to no file at all. -/
theorem deliver_sameAt (record : Record) (host : Host) (handler : Handler)
    (apart : ∀ log, handler = .file log → ¬log.Takes place) :
    SameAt host.files (deliver record host handler).files place := by
  cases handler with
  | console => exact .refl host.files place
  | silent => exact .refl host.files place
  | file log => exact LogFile.writeLine_sameAt (apart log rfl) _ host.files

theorem deliverAll_sameAt (record : Record) : ∀ (handlers : List Handler) (host : Host),
    (∀ log, .file log ∈ handlers → ¬log.Takes place) →
      SameAt host.files (handlers.foldl (deliver record) host).files place := by
  intro handlers
  induction handlers with
  | nil =>
    intro host _
    exact .refl host.files place
  | cons handler rest ih =>
    intro host apart
    have hfirst := deliver_sameAt record host handler fun log heq =>
      apart log (heq ▸ List.mem_cons_self ..)
    have hrest := ih (deliver record host handler) fun log hmem =>
      apart log (List.mem_cons_of_mem _ hmem)
    exact hfirst.trans hrest

/-- Where the journal takes nothing, nobody notices that something was said. -/
theorem said_sameAt_of_not_takes (level : Level) (speaker message : String) (host : Host)
    (apart : ¬host.journal.Takes place) :
    SameAt host.files (said level speaker message host).files place := by
  have hquiet : ∀ other : Host, other.files = host.files → SameAt host.files other.files place :=
    fun other heq => heq ▸ .refl host.files place
  unfold said publish
  split
  · exact hquiet _ rfl
  · split
    · split
      · exact hquiet _ rfl
      · exact hquiet _ rfl
    · exact deliverAll_sameAt _ _ _ fun log hmem htakes => apart ⟨log, hmem, htakes⟩

/-- Outside of what the journal owns nobody notices that something was said. -/
theorem said_sameAt (level : Level) (speaker message : String) (host : Host)
    (unowned : ¬host.journal.Owns place) :
    SameAt host.files (said level speaker message host).files place :=
  said_sameAt_of_not_takes level speaker message host fun htakes => unowned htakes.owns

end Host

end Relaunch
