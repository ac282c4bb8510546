/-
  Where a service runs, and where its output goes.

  The working directory of a service comes from a text, whether that is a setting or the value of an
  option, and so does the path of its log.  Both are normal paths then (`launchPlan_normal`).  That an
  option can give no other path is a special case of what reading a command line keeps: whatever holds
  of the choices to begin with, and is kept by every single choice, holds of the choices of a request
  (`read_keeps`).
-/
import Relaunch.App
import Relaunch.Proofs.DefinitionLayers
import Relaunch.Proofs.PathTexts
import Relaunch.Proofs.SettingsLayers

namespace Relaunch

/-! ## What reading a command line keeps -/

namespace Options

open Settings (bind_eq_ok mapError_eq_ok throw_ne_ok)

/-- Every choice keeps what holds of the choices made before. -/
def Kept (holds : Choices → Prop) : Prop :=
  ∀ choices switch value next, holds choices →
    choices.choose switch value = .ok next → holds next

variable {holds : Choices → Prop} {p q : Progress} {vocabulary : List Switch}

/-- A switch makes a choice or ends the reading, and a choice keeps what holds. -/
theorem act_keeps (kept : Kept holds) {switch : Switch} {value : String} (h : holds p.choices)
    (acts : p.act switch value = .ok q) : holds q.choices := by
  rw [Progress.act, bind_eq_ok] at acts
  obtain ⟨choices, hchosen, hrest⟩ := acts
  have hholds := kept _ _ _ _ h hchosen
  dsimp only at hrest
  split at hrest
  · obtain rfl := Except.ok.inj hrest
    exact hholds
  · split at hrest
    · obtain ⟨_, hthrown, -⟩ := bind_eq_ok.mp hrest
      exact absurd hthrown throw_ne_ok
    · obtain rfl := Except.ok.inj hrest
      exact hholds

theorem actAll_keeps (kept : Kept holds) : ∀ (switches : List Switch) (p : Progress),
    holds p.choices → actAll p switches = .ok q → holds q.choices := by
  intro switches
  induction switches with
  | nil =>
    intro p h acts
    obtain rfl := Except.ok.inj acts
    exact h
  | cons switch rest ih =>
    intro p h acts
    rw [actAll, bind_eq_ok] at acts
    obtain ⟨next, hnext, hrest⟩ := acts
    exact ih next (act_keeps kept h hnext) hrest

/-- However a switch gets its value, what is done with it is one choice, or one for each letter of a
cluster. -/
theorem takeSwitch_keeps (kept : Kept holds) {switch : Switch} {spelling : String}
    {attached : Option String} (h : holds p.choices)
    (takes : takeSwitch vocabulary p switch spelling attached = .ok q) : holds q.choices := by
  unfold takeSwitch at takes
  split at takes
  · split at takes
    · obtain rfl := Except.ok.inj takes
      exact h
    · exact act_keeps kept h takes
  · split at takes
    · exact act_keeps kept h takes
    · split at takes
      · obtain ⟨switches, -, hall⟩ := bind_eq_ok.mp takes
        exact actAll_keeps kept switches p h hall
      · exact absurd takes (by simp)

/-- By induction on the words.  Only switches make choices; what stands alone or separates is set
aside. -/
theorem readWords_keeps (kept : Kept holds) : ∀ (words : List Word) (p : Progress),
    holds p.choices → readWords vocabulary p words = .ok q → holds q.choices := by
  intro words
  induction words with
  | nil =>
    intro p h reads
    rw [readWords] at reads
    split at reads
    · exact absurd reads (by simp)
    · obtain rfl := Except.ok.inj reads
      exact h
  | cons word rest ih =>
    intro p h reads
    unfold readWords at reads
    split at reads
    · obtain ⟨next, hnext, hrest⟩ := bind_eq_ok.mp reads
      exact ih next (act_keeps kept h hnext) hrest
    · exact absurd reads (by simp)
    · refine ih _ ?_ reads
      unfold Progress.takePlain
      split
      · exact h
      · exact h
    · refine ih _ ?_ reads
      unfold Progress.takeSeparator
      split
      · exact h
      · exact h
    · exact ih (p.leave _) h reads
    · obtain ⟨next, hnext, hrest⟩ := bind_eq_ok.mp reads
      exact ih next (takeSwitch_keeps kept h hnext) hrest

theorem readCommand_keeps (kept : Kept holds) (start : holds {}) {command : Command}
    {arguments : List String} {request : Request} {leftOver : List String}
    (reads : readCommand command arguments = .ok (request, leftOver)) : holds request.choices := by
  rw [readCommand, bind_eq_ok] at reads
  obtain ⟨words, -, hrest⟩ := reads
  obtain ⟨p, hread, hrest⟩ := bind_eq_ok.mp hrest
  have hholds := readWords_keeps kept words {} start (mapError_eq_ok.mp hread)
  split at hrest
  · exact absurd hrest throw_ne_ok
  · obtain ⟨rfl, -⟩ := Prod.mk.inj (Except.ok.inj hrest)
    exact hholds

/-- What comes before the command makes no choices for it, so those of the command are all there
are. -/
theorem readGeneral_keeps (kept : Kept holds) (start : holds {}) {request : Request}
    {more : List String} : ∀ (leftOver arguments : List String) (words : List Word),
    readGeneral leftOver arguments words = .ok (request, more) → holds request.choices := by
  intro leftOver arguments words
  fun_induction readGeneral leftOver arguments words with
  | case2 =>
    intro reads
    obtain ⟨⟨read, _⟩, hread, hrest⟩ := bind_eq_ok.mp reads
    obtain ⟨rfl, -⟩ := Prod.mk.inj (Except.ok.inj hrest)
    exact readCommand_keeps kept start hread
  | case5 leftOver _ _ _ _ ih => exact ih
  | case7 leftOver _ _ _ _ _ _ _ _ ih => exact ih
  | case1 | case3 | case4 | case6 | case8 => simp

/-- Whatever every choice keeps holds of the choices of a request. -/
theorem read_keeps (kept : Kept holds) (start : holds {}) {arguments : List String}
    {request : Request} (reads : read arguments = .ok request) : holds request.choices := by
  rw [read, bind_eq_ok] at reads
  obtain ⟨words, -, hrest⟩ := reads
  obtain ⟨⟨read, leftOver⟩, hread, hrest⟩ := bind_eq_ok.mp hrest
  have hholds := readGeneral_keeps kept start [] arguments words hread
  dsimp only at hrest
  split at hrest
  · obtain ⟨_, hthrown, -⟩ := bind_eq_ok.mp hrest
    exact absurd hthrown throw_ne_ok
  · obtain rfl := Except.ok.inj hrest
    exact hholds

/-- The working directory of a request is a normal path. -/
theorem workingDirectory_normal {arguments : List String} {request : Request}
    (reads : read arguments = .ok request) {path : Path}
    (chosen : request.choices.workingDirectory = some path) : path.Normal := by
  have hkept : Kept fun choices => ∀ path, choices.workingDirectory = some path → path.Normal := by
    intro choices switch value next h hchosen
    cases switch with
    | workdir =>
      obtain rfl := Except.ok.inj hchosen
      rintro path hpath
      obtain rfl := Option.some.inj hpath
      exact Path.normal_ofText value
    | help | version => simp [Choices.choose] at hchosen
    | pattern | executable | logFile | appendLog | noFdLimit | healthHost | json | verbose =>
      obtain rfl := Except.ok.inj hchosen
      exact h
    | fdLimit | attempts | delay | gracefulTimeout | healthPort | healthTimeout =>
      obtain ⟨_, -, hnext⟩ := bind_eq_ok.mp hchosen
      obtain rfl := Except.ok.inj hnext
      exact h
  exact read_keeps hkept (by simp) reads path chosen

end Options

/-! ## The paths of a definition -/

namespace App

variable {settings : Settings} {service : String} {arguments passed : List String}
  {request : Options.Request} {definition : Service.Definition}

/-- Where a service runs, and what its log is called, is chosen, or else set. -/
theorem paths_of_resolve {choices : Options.Choices}
    (resolves : Service.Definition.resolve settings service (overrides choices passed) =
      .ok definition) :
    definition.workingDirectory = choices.workingDirectory.getD settings.workingDirectory ∧
      definition.log = choices.log.getD settings.serviceLog := by
  obtain ⟨executable, -, hpasses⟩ := Service.Definition.passes_of_resolve resolves
  exact ⟨Service.Field.path_getD.mp hpasses.workingDirectory,
    Service.Field.text_getD.mp hpasses.log⟩

/-- Where a service runs, and where its output goes, is said by normal paths. -/
theorem launchPlan_normal (usual : settings.workingDirectory.Normal)
    (reads : Options.read arguments = .ok request)
    (resolves : Service.Definition.resolve settings service (overrides request.choices passed) =
      .ok definition) :
    definition.launchPlan.directory.Normal ∧ definition.launchPlan.log.Normal := by
  refine ⟨?_, Path.normal_ofText definition.log⟩
  show definition.workingDirectory.Normal
  rw [(paths_of_resolve resolves).1]
  cases hchosen : request.choices.workingDirectory with
  | none => exact usual
  | some path => exact Options.workingDirectory_normal reads hchosen

end App

end Relaunch
