/-
  The content of a log over time.

  A log is opened by launches, and by whoever writes to it directly.  A launch that stops before it
  comes to the log leaves the log alone; one that opens it empties it or goes on at its end, and then
  the output of the executable follows, if that can be started.  So all that a step does to a log is a
  `Deed`: nothing, or an opening with some output.

  * `Does` reads the deed off the way in which a step ends, and every step does one
    (`exists_does`);
  * `Does.makes` says what one deed makes of the content, and `Holds.cons` what any number of
    them: everything that was put out since the log was emptied last, after the initial content if it
    never was;
  * `log_history` says that this is what stands in the log after any history.

  The journal may write files of its own.  Whatever does not belong to it is left alone by all that is
  said on the way (`Bypasses`).
-/
import Relaunch.Proofs.Launching

namespace Relaunch

open Relaunch.FileTree Relaunch.Host

/-! ## Work that leaves a file alone -/

namespace Host

/-- Between the two hosts the file at the place was left alone, unless the journal takes it. -/
structure Bypasses (place : Place) (before after : Host) : Prop where
  journal : after.journal = before.journal
  cwdPlace : after.cwdPlace = before.cwdPlace
  content : ¬before.journal.Takes place →
    after.files.content? place = before.files.content? place

namespace Bypasses

variable {place : Place} {a b c : Host}

theorem of_files (journal : b.journal = a.journal) (cwdPlace : b.cwdPlace = a.cwdPlace)
    (files : b.files = a.files) : Bypasses place a b :=
  ⟨journal, cwdPlace, fun _ => by rw [files]⟩

theorem refl (host : Host) : Bypasses place host host := .of_files rfl rfl rfl

theorem trans (h : Bypasses place a b) (h' : Bypasses place b c) : Bypasses place a c := by
  refine ⟨h'.journal.trans h.journal, h'.cwdPlace.trans h.cwdPlace, fun apart => ?_⟩
  exact (h'.content (h.journal ▸ apart)).trans (h.content apart)

instance : Std.Refl (Bypasses place) := ⟨refl⟩

instance : Trans (Bypasses place) (Bypasses place) (Bypasses place) := ⟨trans⟩

end Bypasses

section Steps

variable (place : Place)

theorem said_bypasses (level : Level) (speaker message : String) (host : Host) :
    Bypasses place host (said level speaker message host) := by
  have halike := said_alike level speaker message host
  refine ⟨halike.view Host.journal, halike.view Host.cwdPlace, fun apart => ?_⟩
  exact (said_sameAt_of_not_takes level speaker message host apart).1

theorem say_bypasses (level : Level) (speaker message : String) :
    Keeps (Bypasses place) (say level speaker message) :=
  said_bypasses place level speaker message

theorem readLimits_bypasses : Keeps (Bypasses place) readLimits := by
  intro host
  rw [ends_readLimits]
  exact ⟨fun _ => .of_files rfl rfl rfl, fun _ _ => .of_files rfl rfl rfl⟩

theorem setLimits_bypasses (limits : FileLimits) : Keeps (Bypasses place) (setLimits limits) := by
  intro host
  rw [ends_setLimits]
  exact ⟨fun _ => .of_files rfl rfl rfl, fun _ _ => .of_files rfl rfl rfl⟩

theorem raise_bypasses (wanted : Int) : Keeps (Bypasses place) (FileLimit.raise wanted) := by
  refine (readLimits_bypasses place).bind fun limits => ?_
  split
  · exact .pure _
  · refine Keeps.bind (.tryCatch (setLimits_bypasses place _) fun fault => ?_) fun _ =>
      (say_bypasses place _ _ _).bind fun _ => .pure _
    split
    · exact .throw _
    · exact .throw _

theorem raiseLimit_bypasses (plan : LaunchPlan) :
    Keeps (Bypasses place) (Launch.raiseLimit plan) := by
  unfold Launch.raiseLimit
  split
  · exact .pure _
  · exact .pure _
  · exact (raise_bypasses place _).bind fun _ => .pure _

theorem isDirectory_bypasses (path : Path) : Keeps (Bypasses place) (isDirectory path) := by
  intro host
  refine (isDirectory_ends path host).imp (fun _ after h => ?_) (fun _ after h => ?_)
  · rw [h.1]
    exact .refl host
  · rw [h.1]
    exact .refl host

theorem makeDirectory_bypasses (path : Path) : Keeps (Bypasses place) (makeDirectory path) := by
  have hlocate : Keeps (Bypasses place) (locate path) := by
    intro host
    refine (locate_ends path host).imp (fun _ after h => ?_) (fun _ after h => ?_)
    · rw [h.1]
      exact .refl host
    · rw [h.1]
      exact .refl host
  refine hlocate.bind fun target => ?_
  cases target with
  | directory _ => exact .throw _
  | entry made =>
    intro host
    simp only [ends_bind, ends_get]
    split
    · exact .refl host
    · exact ⟨rfl, rfl, fun _ => content?_addDirectory host.files made place⟩

theorem acceptDirectory_bypasses (path : Path) (fault : Fault) :
    Keeps (Bypasses place) (acceptDirectory path fault) := by
  unfold acceptDirectory
  split
  · exact .throw _
  · refine (isDirectory_bypasses place path).bind fun found => ?_
    split
    · exact .throw _
    · exact .pure _

/-- No file is changed where directories are made. -/
theorem makeDirectoriesTo_bypasses (path : Path) : ∀ depth,
    Keeps (Bypasses place) (makeDirectoriesTo path depth) := by
  have hagain : ∀ here : Path, Keeps (Bypasses place)
      (tryCatch (makeDirectory here) fun fault =>
        if isNotFound fault then throw fault else acceptDirectory here fault) := by
    intro here
    refine .tryCatch (makeDirectory_bypasses place here) fun fault => ?_
    split
    · exact .throw _
    · exact acceptDirectory_bypasses place here fault
  intro depth
  induction depth with
  | zero => exact hagain _
  | succ depth ih =>
    refine .tryCatch (makeDirectory_bypasses place _) fun fault => ?_
    split
    · exact ih.bind fun _ => hagain _
    · exact acceptDirectory_bypasses place _ fault

end Steps

end Host

/-! ## Opening a log -/

/-- The log was opened on `before` at its place, and starts empty or with what was in it. -/
structure ServiceLog.Begins (log : ServiceLog) (before : Host) (place : Place) (after : Host) :
    Prop where
  atPlace : place = placeOf before.cwdPlace log.path
  journal : after.journal = before.journal
  cwdPlace : after.cwdPlace = before.cwdPlace
  content : ¬before.journal.Takes place →
    after.files.content? place = some (startingContent before.files place log.mode)

/-- A log that cannot be opened is left alone, like every other file. -/
theorem ServiceLog.openFile_begins (log : ServiceLog) (host : Host) :
    Ends log.openFile host (log.Begins host) (fun _ after => ∀ place, Bypasses place host after) := by
  have hmakes := fun place => makeDirectoriesTo_bypasses place log.path.parent
    log.path.parent.parts.length host
  rw [openFile, ends_bind]
  rcases hmade : makeDirectories log.path.parent host with ⟨_, made⟩ | ⟨f, made⟩
  · have htold : ∀ place, Bypasses place host (said .debug speaker
        ("Opening log sink " ++ log.path.text ++ " (" ++ log.mode.name ++ ")") made) :=
      fun place => ((hmakes place).of_ok hmade).trans (said_bypasses place _ _ _ made)
    rw [Ends, hmade]
    show Ends (say _ _ _ >>= _) made _ _
    rw [ends_bind, ends_say, ends_bind]
    refine (Host.openFile_ends log.path log.mode _).imp (fun place after h => ?_) (fun f after h => ?_)
    · obtain ⟨hplace, rfl⟩ := h
      rw [ends_bind, holdLog, ends_modify, ends_pure]
      have hopened := content?_opened (said .debug speaker
        ("Opening log sink " ++ log.path.text ++ " (" ++ log.mode.name ++ ")") made) place log.mode
      refine ⟨hplace.trans (by rw [(htold place).cwdPlace]), ?_, ?_, fun apart => ?_⟩
      · rw [← (htold place).journal]
        cases log.mode <;> rfl
      · rw [← (htold place).cwdPlace]
        cases log.mode <;> rfl
      · exact hopened.trans
          (congrArg some (startingContent_congr ((htold place).content apart) log.mode))
    · obtain ⟨rfl, -⟩ := h
      exact htold
  · rw [Ends, hmade]
    exact fun place => (hmakes place).of_error hmade

theorem Launch.openLog_begins (log : ServiceLog) (host : Host) :
    Ends (openLog log) host (log.Begins host) (fun _ after => ∀ place, Bypasses place host after) := by
  rw [openLog, ends_tryCatch]
  refine (ServiceLog.openFile_begins log host).imp (fun _ _ h => h) (fun f after h => ?_)
  split
  · exact h
  · exact h

/-! ## Steps in the history of a log -/

/-- A step in the history of a log. -/
inductive LogStep
  | launch (plan : LaunchPlan)
  | write (log : ServiceLog) (content : String)

namespace LogStep

/-- The log that a step is about. -/
def log : LogStep → ServiceLog
  | launch plan => ⟨plan.resolvedLog, plan.mode⟩
  | write log _ => log

/-- The host that a step leaves, whether it goes through or not. -/
def perform : LogStep → Host → Host
  | launch plan, host => left (Launch.run plan) host
  | write log content, host => left (log.write content) host

end LogStep

/-- What a step does to its log. -/
inductive Deed
  | nothing
  /-- The log is opened, and then there is some output. -/
  | opening (mode : OpenMode) (output : String)
  deriving DecidableEq, Repr

namespace Deed

/-- What a deed puts out. -/
def output : Deed → String
  | nothing => ""
  | opening _ output => output

/-- Does a deed empty the log? -/
def empties : Deed → Bool
  | opening .truncate _ => true
  | _ => false

/-- What a deed makes of the content of a log, `none` where there is no file. -/
def apply : Deed → Option String → Option String
  | nothing, content => content
  | opening .truncate output, _ => some output
  | opening .append output, content => some (content.getD "" ++ output)

theorem apply_opening (mode : OpenMode) (output : String) (tree : FileTree) (place : Place) :
    (opening mode output).apply (tree.content? place) =
      some (startingContent tree place mode ++ output) := by
  cases mode with
  | truncate => rw [startingContent, String.empty_append]; rfl
  | append => rfl

end Deed

/-- A step on `before` did a deed to its log and left a host. -/
inductive Does : LogStep → Host → Deed → Host → Prop
  /-- A launch stops before it has opened the log. -/
  | stopped {plan : LaunchPlan} {before after : Host} {step : Launch.Step} {f : Fault}
      (stops : Launch.Stops plan before step f after) (early : step ≠ .start) :
      Does (.launch plan) before .nothing after
  /-- A launch opens the log, and then the executable cannot be started. -/
  | unstarted {plan : LaunchPlan} {before after : Host} {f : Fault}
      (stops : Launch.Stops plan before .start f after) :
      Does (.launch plan) before (.opening plan.mode "") after
  /-- A launch comes through, and the executable puts something out. -/
  | started {plan : LaunchPlan} {before after : Host} {daemon : Daemon} {output : String}
      {exits : Bool} (returns : Launch.Returns plan before daemon after)
      (response : before.response (Launch.command plan) = .runs output exits) :
      Does (.launch plan) before (.opening plan.mode output) after
  /-- The log cannot be opened to be written to. -/
  | unopened {log : ServiceLog} {content : String} {before after : Host} {f : Fault}
      (opens : log.openFile before = .error f after) :
      Does (.write log content) before .nothing after
  /-- The log is opened, written to and closed. -/
  | written {log : ServiceLog} {content : String} {before opened : Host} {place : Place}
      (opens : log.openFile before = .ok place opened) :
      Does (.write log content) before (.opening log.mode content)
        ({ opened with files := opened.files.append place content }.closed place)

/-- Every step does one deed or another to its log. -/
theorem exists_does (step : LogStep) (before : Host) :
    ∃ deed, Does step before deed (step.perform before) := by
  cases step with
  | launch plan =>
    show ∃ deed, Does (.launch plan) before deed (left (Launch.run plan) before)
    rcases (Launch.run_stages plan before).cases with
      ⟨daemon, after, hran, hreturns⟩ | ⟨f, after, hran, stop, hstops⟩
    · obtain ⟨output, exits, hresponse, -⟩ := hreturns.launched.started
      rw [left, hran]
      exact ⟨_, .started hreturns hresponse⟩
    · rw [left, hran]
      by_cases hstart : stop = .start
      · exact ⟨_, .unstarted (hstart ▸ hstops)⟩
      · exact ⟨_, .stopped hstops hstart⟩
  | write log content =>
    show ∃ deed, Does (.write log content) before deed (left (log.write content) before)
    cases hopens : log.openFile before with
    | ok place opened =>
      rw [left, ServiceLog.write, bind_of_ok hopens]
      exact ⟨_, .written hopens⟩
    | error f after =>
      rw [left, ServiceLog.write, bind_of_error hopens]
      exact ⟨_, .unopened hopens⟩

/-! ## What a step makes of a log -/

/-- On `before` a deed was done to the file at the place, unless the journal takes it. -/
structure Makes (place : Place) (before : Host) (deed : Deed) (after : Host) : Prop where
  journal : after.journal = before.journal
  cwdPlace : after.cwdPlace = before.cwdPlace
  content : ¬before.journal.Takes place →
    after.files.content? place = deed.apply (before.files.content? place)

section Makes

variable {place : Place} {before ready opened after : Host} {log : ServiceLog}

theorem makes_of_bypasses (h : Bypasses place before after) : Makes place before .nothing after :=
  ⟨h.journal, h.cwdPlace, h.content⟩

theorem Makes.trans_bypasses {deed : Deed} (h : Makes place before deed ready)
    (h' : Bypasses place ready after) : Makes place before deed after := by
  refine ⟨h'.journal.trans h.journal, h'.cwdPlace.trans h.cwdPlace, fun apart => ?_⟩
  exact (h'.content (h.journal ▸ apart)).trans (h.content apart)

/-- A log was opened on `ready`, and nothing but output followed. -/
theorem makes_of_begins {output : String}
    (readied : Bypasses (placeOf before.cwdPlace log.path) before ready)
    (begins : log.Begins ready place opened) (journal : after.journal = opened.journal)
    (cwdPlace : after.cwdPlace = opened.cwdPlace)
    (content : ∀ start, opened.files.content? place = some start →
      after.files.content? place = some (start ++ output)) :
    Makes (placeOf before.cwdPlace log.path) before (.opening log.mode output) after := by
  have hplace : place = placeOf before.cwdPlace log.path := by
    rw [begins.atPlace, readied.cwdPlace]
  rw [← hplace] at readied ⊢
  refine ⟨(journal.trans begins.journal).trans readied.journal,
    (cwdPlace.trans begins.cwdPlace).trans readied.cwdPlace, fun apart => ?_⟩
  have hstart := begins.content (readied.journal ▸ apart)
  rw [content _ hstart, Deed.apply_opening, startingContent_congr (readied.content apart)]

/-- Output goes to the end of a file. -/
theorem content?_of_output {tree : FileTree} {start : String} (output : String)
    (h : tree.content? place = some start) :
    (tree.append place output).content? place = some (start ++ output) := by
  rw [content?_append, if_pos rfl, h, Option.getD_some]

/-- **Whatever a step does to its log, that is what becomes of the log.** -/
theorem Does.makes {step : LogStep} {deed : Deed} (h : Does step before deed after) :
    Makes (placeOf before.cwdPlace step.log.path) before deed after := by
  cases h with
  | stopped stops early =>
    refine makes_of_bypasses ?_
    cases stops with
    | limit rejected => exact (raiseLimit_bypasses _ _ before).of_error rejected
    | missing readied | unclear readied => exact (raiseLimit_bypasses _ _ before).of_ok readied
    | log readied looked unopened =>
      have hunopened := (Launch.openLog_begins _ _).of_error unopened
      exact ((raiseLimit_bypasses _ _ before).of_ok readied).trans (hunopened _)
    | start => exact absurd rfl early
  | unstarted stops =>
    cases stops with
    | start readied looked opens unstarted =>
      have hbegins := (Launch.openLog_begins _ _).of_ok opens
      obtain ⟨-, rfl⟩ := (Launch.startAndClose_spec _ _ _).of_error unstarted
      refine makes_of_begins ((raiseLimit_bypasses _ _ before).of_ok readied) hbegins rfl rfl
        fun start hstart => ?_
      rw [String.append_empty]
      exact hstart
  | @started plan _ _ daemon output exits returns response =>
    cases returns with
    | started readied looked opens starts =>
      have hbegins := (Launch.openLog_begins _ _).of_ok opens
      have hframe := Launch.opened_frame ((Launch.raiseLimit_ends _ before).of_ok readied)
        ((Launch.openLog_spec _ _).of_ok opens)
      have hsame := hframe.view fun host => host.response (Launch.command plan)
      obtain ⟨-, put, stopped, hresponse, rfl⟩ := (Launch.startAndClose_spec _ _ _).of_ok starts
      obtain ⟨rfl, rfl⟩ : put = output ∧ stopped = exits := by
        simpa using hresponse.symm.trans (hsame.trans response)
      refine Makes.trans_bypasses ?_ (said_bypasses _ _ _ _ _)
      refine makes_of_begins ((raiseLimit_bypasses _ _ before).of_ok readied) hbegins rfl rfl
        fun start hstart => ?_
      exact content?_of_output _ hstart
  | unopened opens => exact makes_of_bypasses ((ServiceLog.openFile_begins _ _).of_error opens _)
  | written opens =>
    have hbegins := (ServiceLog.openFile_begins _ _).of_ok opens
    refine makes_of_begins (.refl before) hbegins rfl rfl fun start hstart => ?_
    exact content?_of_output _ hstart

end Makes

/-! ## What a history makes of a log -/

/-- Steps that were taken one after the other, whatever became of each, with the deeds that they did
to their logs. -/
inductive Unfolds : List LogStep → Host → List Deed → Host → Prop
  | nil (host : Host) : Unfolds [] host [] host
  | cons {step : LogStep} {steps : List LogStep} {before mid after : Host} {deed : Deed}
      {deeds : List Deed} (does : Does step before deed mid) (rest : Unfolds steps mid deeds after) :
      Unfolds (step :: steps) before (deed :: deeds) after

/-- The host that steps leave when they are taken one after the other. -/
def performed (steps : List LogStep) (host : Host) : Host :=
  steps.foldl (fun host step => step.perform host) host

/-- Every sequence of steps unfolds. -/
theorem exists_unfolds : ∀ (steps : List LogStep) (host : Host),
    ∃ deeds, Unfolds steps host deeds (performed steps host) := by
  intro steps
  induction steps with
  | nil => exact fun host => ⟨[], .nil host⟩
  | cons step steps ih =>
    intro host
    obtain ⟨deed, hdoes⟩ := exists_does step host
    obtain ⟨deeds, hrest⟩ := ih (step.perform host)
    exact ⟨deed :: deeds, .cons hdoes hrest⟩

/-- All that deeds put out, in order. -/
def outputs (deeds : List Deed) : String := String.join (deeds.map Deed.output)

theorem outputs_cons (deed : Deed) (deeds : List Deed) :
    outputs (deed :: deeds) = deed.output ++ outputs deeds := String.join_cons

theorem outputs_eq_empty {deeds : List Deed} (h : ∀ deed ∈ deeds, deed = .nothing) :
    outputs deeds = "" := by
  induction deeds with
  | nil => rfl
  | cons deed deeds ih =>
    obtain ⟨rfl, hrest⟩ := List.forall_mem_cons.mp h
    rw [outputs_cons, ih hrest]
    rfl

/-- What a log holds after deeds, if it held `initial` before them. -/
inductive Holds (initial : Option String) (deeds : List Deed) : Option String → Prop
  /-- It was never opened. -/
  | same (unopened : ∀ deed ∈ deeds, deed = .nothing) : Holds initial deeds initial
  /-- It was opened, and never emptied: what it held, and then all that was put out. -/
  | longer (opened : ∃ deed ∈ deeds, deed ≠ .nothing)
      (kept : ∀ deed ∈ deeds, deed.empties = false) :
      Holds initial deeds (some (initial.getD "" ++ outputs deeds))
  /-- It was emptied, for the last time before `later`: all that was put out from then on. -/
  | anew (earlier : List Deed) {later : List Deed} {output : String}
      (emptied : deeds = earlier ++ .opening .truncate output :: later)
      (kept : ∀ deed ∈ later, deed.empties = false) :
      Holds initial deeds (some (output ++ outputs later))

namespace Holds

variable {deed : Deed} {deeds : List Deed} {initial final : Option String}

/-- A log that was never opened again holds what the first deed made of it. -/
theorem cons_same (unopened : ∀ deed ∈ deeds, deed = .nothing) :
    Holds initial (deed :: deeds) (deed.apply initial) := by
  have hkept : ∀ deed ∈ deeds, deed.empties = false := fun deed hmem => by
    rw [unopened deed hmem]
    rfl
  rcases deed with _ | ⟨mode, output⟩
  · exact .same (List.forall_mem_cons.mpr ⟨rfl, unopened⟩)
  · cases mode with
    | truncate =>
      have h : Holds initial (.opening .truncate output :: deeds) (some (output ++ outputs deeds)) :=
        .anew [] rfl hkept
      rwa [outputs_eq_empty unopened, String.append_empty] at h
    | append =>
      have h : Holds initial (.opening .append output :: deeds) _ :=
        .longer ⟨_, List.mem_cons_self .., nofun⟩ (List.forall_mem_cons.mpr ⟨rfl, hkept⟩)
      rwa [outputs_cons, outputs_eq_empty unopened, String.append_empty] at h

/-- A log that was never emptied afterwards holds what the first deed made of it, and more. -/
theorem cons_longer (opened : ∃ deed ∈ deeds, deed ≠ .nothing)
    (kept : ∀ deed ∈ deeds, deed.empties = false) :
    Holds initial (deed :: deeds) (some ((deed.apply initial).getD "" ++ outputs deeds)) := by
  have hopened : ∃ other ∈ deed :: deeds, other ≠ .nothing := by
    obtain ⟨other, hmem, hne⟩ := opened
    exact ⟨other, List.mem_cons_of_mem _ hmem, hne⟩
  rcases deed with _ | ⟨mode, output⟩
  · have h : Holds initial _ _ := .longer hopened (List.forall_mem_cons.mpr ⟨rfl, kept⟩)
    rwa [outputs_cons, Deed.output, String.empty_append] at h
  · cases mode with
    | truncate => exact .anew [] rfl kept
    | append =>
      have h : Holds initial _ _ := .longer hopened (List.forall_mem_cons.mpr ⟨rfl, kept⟩)
      rwa [outputs_cons, ← String.append_assoc] at h

/-- One more deed at the beginning: the others go on from what it makes of the content. -/
theorem cons (h : Holds (deed.apply initial) deeds final) : Holds initial (deed :: deeds) final := by
  cases h with
  | same unopened => exact cons_same unopened
  | longer opened kept => exact cons_longer opened kept
  | anew earlier emptied kept => exact .anew (deed :: earlier) (by rw [emptied]; rfl) kept

end Holds

/-- What a history makes of its log. -/
theorem Unfolds.holds {steps : List LogStep} {before after : Host} {deeds : List Deed} {place : Place}
    (h : Unfolds steps before deeds after) (apart : ¬before.journal.Takes place)
    (same : ∀ step ∈ steps, placeOf before.cwdPlace step.log.path = place) :
    Holds (before.files.content? place) deeds (after.files.content? place) := by
  induction h with
  | nil host => exact .same nofun
  | cons does rest ih =>
    obtain ⟨hplace, hrest⟩ := List.forall_mem_cons.mp same
    have hmakes := does.makes
    rw [hplace] at hmakes
    have hholds := ih (hmakes.journal ▸ apart) (hmakes.cwdPlace ▸ hrest)
    rw [hmakes.content apart] at hholds
    exact hholds.cons

/-- **What stands in a log after any history of launches and writes.** However each step ends, it
does one deed to the log: nothing if it stops before the log is opened, otherwise an opening in its
mode and what is put out afterwards, which is nothing if the executable cannot be started.  The log
holds all that was put out since it was emptied last, and what it held at first comes before that if
it was never emptied. -/
theorem log_history {host : Host} {place : Place} (apart : ¬host.journal.Takes place)
    (steps : List LogStep) (same : ∀ step ∈ steps, placeOf host.cwdPlace step.log.path = place) :
    (∃ deeds, Unfolds steps host deeds (performed steps host)) ∧
      ∀ deeds after, Unfolds steps host deeds after →
        Holds (host.files.content? place) deeds (after.files.content? place) :=
  ⟨exists_unfolds steps host, fun _ _ hunfolds => hunfolds.holds apart same⟩

/-- A host with a log that is in use, and one executable of two that can be started. -/
def loggingHost : Host where
  files :=
    { directories := [["work"], ["srv"]]
      files := [(["srv", "run.log"], "old\n")] }
  executables := [("/bin/svc", .runs "up\n" true)]

/-- A launch on it, with the log by its absolute or by its relative path. -/
def loggingPlan (executable : String) (log : Path) (mode : OpenMode) : LaunchPlan where
  executable := executable
  directory := ⟨.slash, ["srv"]⟩
  log := log
  fileLimit := none
  mode := mode

theorem log_history_mixed :
    let log : Path := ⟨.slash, ["srv", "run.log"]⟩
    let steps : List LogStep :=
      [.launch (loggingPlan "/bin/svc" log .append),
        .launch (loggingPlan "/bin/gone" ⟨.here, ["run.log"]⟩ .truncate),
        .write ⟨log, .append⟩ "note\n",
        .launch (loggingPlan "/bin/svc" ⟨.here, ["run.log"]⟩ .append),
        .launch { loggingPlan "/bin/svc" log .truncate with directory := ⟨.slash, ["srv", "none"]⟩ }]
    ¬loggingHost.journal.Takes ["srv", "run.log"] ∧
      (∀ step ∈ steps, placeOf loggingHost.cwdPlace step.log.path = ["srv", "run.log"]) ∧
      ∃ deeds, Unfolds steps loggingHost deeds (performed steps loggingHost) ∧
        Holds (some "old\n") deeds (some "note\nup\n") := by
  intro log steps
  have hapart : ¬loggingHost.journal.Takes ["srv", "run.log"] := by
    rintro ⟨file, hmem, -⟩
    exact absurd hmem List.not_mem_nil
  have hsame : ∀ step ∈ steps,
      placeOf loggingHost.cwdPlace step.log.path = ["srv", "run.log"] := by decide +kernel
  have hfinal : (performed steps loggingHost).files.content? ["srv", "run.log"] =
      some "note\nup\n" := by decide +kernel
  obtain ⟨⟨deeds, hunfolds⟩, hholds⟩ := log_history hapart steps hsame
  exact ⟨hapart, hsame, deeds, hunfolds, hfinal ▸ hholds deeds _ hunfolds⟩

end Relaunch
