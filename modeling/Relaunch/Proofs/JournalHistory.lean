/-
  The journal over time.

  The journal may be set up any number of times, with records before, between and after, while others
  change the files and what may be touched.  Where records go is settled the first time: they go to
  the console, and to the log behind it if that can be opened then (`run_bare`).  Every other time
  changes the level and nothing else (`run_again`).

  From then on a record below the level in force is kept nowhere (`said_unheard`).  Any other is added
  once to standard error and once to the log, as long as that does not rotate (`said_heard`).  So each
  thing that happens adds the records that it has for the level in force (`perform_adds`), and by
  induction whatever happens adds those that reached it, in order (`performed_adds`).
  `journal_history` puts it all together.
-/
import Relaunch.Proofs.Legible

namespace Relaunch

open Relaunch.FileTree Relaunch.Host

namespace JournalSetup

/-! ## Setting up for the first time -/

/-- The data directory can be made, and the log in it opened. -/
def Opens (settings : Settings) (host : Host) : Prop :=
  ∃ made place opened, makeDirectories settings.dataDirectory host = .ok () made ∧
    openFile (logFile settings host.cwd).path .append made = .ok place opened

/-- The log that a journal gets which is set up on a host: none if it cannot be opened. -/
inductive Logs (settings : Settings) (host : Host) : (log? : Option LogFile) → Prop
  | opened (opens : Opens settings host) : Logs settings host (some (logFile settings host.cwd))
  | unopened (fails : ¬Opens settings host) : Logs settings host none

/-- The console, and the log behind it if there is one. -/
def handlersFor (log? : Option LogFile) : List Handler := .console :: (log?.map Handler.file).toList

theorem handlersFor_ne_nil (log? : Option LogFile) : handlersFor log? ≠ [] := List.cons_ne_nil _ _

/-- The log holds what it held before, and is there even if it held nothing. -/
def Begun (before : Host) (log? : Option LogFile) (after : Host) : Prop :=
  ∀ log ∈ log?, after.files.content? log.place =
    some ((before.files.content? log.place).getD "")

section Bare

variable {settings : Settings} {host : Host} (bare : host.journal.handlers = [])
  (absolute : host.cwd.isAbsolute = true) (legible : holdsNull settings.dataDirectory = false)
  (here : holdsNull host.cwd = false)

include bare absolute legible here

/-- What keeps the log from being opened is a system fault. -/
theorem openLog_opens :
    Ends (openLog settings) host
      (fun log after => log = logFile settings host.cwd ∧ Opens settings host ∧
        Begun host (some log) after)
      (fun f _ => f.isSystemFault = true ∧ ¬Opens settings host) := by
  have hmakes := makeDirectories_ends settings.dataDirectory host
  rw [openLog, ends_bind, Ends]
  cases hmade : makeDirectories settings.dataDirectory host with
  | error f made =>
    refine ⟨(hmakes.of_error hmade).1.system legible, ?_⟩
    rintro ⟨_, _, _, hmade', -⟩
    rw [hmade] at hmade'
    cases hmade'
  | ok _ made =>
    have hconfined := hmakes.of_ok hmade
    have hcwd : made.cwd = host.cwd := hconfined.alike.view Host.cwd
    have hopens := openFile_ends (logFile settings host.cwd).path .append made
    show Ends (get >>= _) made _ _
    rw [ends_bind, ends_get, hcwd, ends_bind, Ends]
    cases hopened : openFile (logFile settings host.cwd).path .append made with
    | error f after =>
      refine ⟨(hopens.of_error hopened).2.system (legible_logFile legible here), ?_⟩
      rintro ⟨_, _, _, hmade', hopened'⟩
      rw [hmade] at hmade'
      cases hmade'
      rw [hopened] at hopened'
      cases hopened'
    | ok place after =>
      refine ⟨rfl, ⟨made, place, after, hmade, hopened⟩, fun log hlog => ?_⟩
      obtain rfl := Option.some.inj hlog
      obtain ⟨hplace, rfl⟩ := hopens.of_ok hopened
      rw [placeOf_logFile settings absolute] at hplace
      have hunowned : ¬host.journal.Owns place := by
        rintro ⟨log, hmem, -⟩
        rw [bare] at hmem
        exact List.not_mem_nil hmem
      rw [← hplace, content?_opened, startingContent, hconfined.contents place hunowned id]

/-- A journal without handlers gets the console, and the log if it can be opened. -/
theorem run_bare (verbose : Bool) :
    Ends (run settings verbose) host
      (fun _ after => ∃ log?, Logs settings host log? ∧
        after.journal = ⟨levelFor verbose, handlersFor log?⟩ ∧ Begun host log? after)
      (fun _ _ => False) := by
  rw [run, ends_bind, ends_get, bare, List.isEmpty_nil, if_pos rfl, ends_bind, logHandlers,
    ends_tryCatch, ends_bind]
  refine (openLog_opens bare absolute legible here).imp (fun log after h => ?_) fun f after h => ?_
  · obtain ⟨rfl, hopens, hbegun⟩ := h
    rw [ends_pure, ends_modify]
    exact ⟨_, .opened hopens, rfl, hbegun⟩
  · rw [if_pos h.1, ends_bind, complain, ends_modify, ends_pure, ends_modify]
    exact ⟨none, .unopened h.2, rfl, fun _ hmem => absurd hmem (by simp)⟩

end Bare

/-! ## Setting up again -/

/-- A journal that has handlers keeps them, and nothing is done but to change its level. -/
theorem run_again (settings : Settings) (verbose : Bool) {host : Host}
    (there : host.journal.handlers ≠ []) :
    run settings verbose host =
      .ok () { host with journal := { host.journal with level := levelFor verbose } } := by
  have hempty : host.journal.handlers.isEmpty = false := by simpa using there
  show (if host.journal.handlers.isEmpty = true then _ else _ : Session Unit) host = _
  rw [hempty]
  rfl

end JournalSetup

/-! ## What becomes of a record -/

/-- A log without a bound takes every line. -/
theorem LogFile.writeLine_of_unbounded {log : LogFile} (unbounded : log.maxBytes ≤ 0)
    (line : String) (tree : FileTree) :
    log.writeLine line tree = (tree.append log.place (line ++ "\n"), true) := by
  have hroom : ∀ length, log.isFull tree length = false := by
    intro length
    rw [isFull, decide_eq_false (by omega), Bool.false_and]
  simp only [writeLine, makeRoom, hroom]
  rfl

namespace Host

open JournalSetup (handlersFor)

variable {record : Record} {host : Host}

/-- The tree with a text at the end of the log, if there is one. -/
def withText (text : String) (log? : Option LogFile) (tree : FileTree) : FileTree :=
  match log? with
  | none => tree
  | some log => tree.append log.place text

/-- A record below the level in force is kept nowhere. -/
theorem said_unheard (below : record.level.reaches host.journal.level = false) :
    said record.level record.speaker record.message host =
      { host with records := host.records.push record } := by
  show publish record _ = _
  unfold publish
  rw [below]
  rfl

/-- Any other record is added once to standard error, and once to the log. -/
theorem said_heard {log? : Option LogFile} (handlers : host.journal.handlers = handlersFor log?)
    (unbounded : ∀ log ∈ log?, log.maxBytes ≤ 0)
    (reaches : record.level.reaches host.journal.level = true) :
    said record.level record.speaker record.message host =
      { host with
        records := host.records.push record
        stderr := host.stderr ++ (record.line host.journalTime ++ "\n")
        files := withText (record.line host.journalTime ++ "\n") log? host.files } := by
  show publish record { host with records := _ } = _
  unfold publish
  dsimp only
  rw [reaches, handlers]
  cases log? with
  | none => simp [handlersFor, deliver, withText, String.append_assoc]
  | some log =>
    have hwrites := LogFile.writeLine_of_unbounded (unbounded log rfl)
    simp [handlersFor, deliver, withText, hwrites, String.append_assoc]

end Host

/-! ## Whatever happens -/

namespace JournalSetup

/-- What can happen to a journal. -/
inductive Happening
  /-- It is set up, for the first time or again. -/
  | setUp (verbose : Bool)
  /-- Some part says something. -/
  | emit (record : Record)
  /-- Others change the files, and which paths may be touched. -/
  | meddle (change : FileTree → FileTree) (denied : List String)

namespace Happening

/-- The host that something leaves behind, whether it goes through or not. -/
def perform (settings : Settings) : Happening → Host → Host
  | setUp verbose, host => left (run settings verbose) host
  | emit record, host => left (say record.level record.speaker record.message) host
  | meddle change denied, host => { host with files := change host.files, deniedPaths := denied }

/-- The level in force after something has happened, where it was `level` before. -/
def levelAfter (level : Level) : Happening → Level
  | setUp verbose => levelFor verbose
  | emit _ | meddle _ _ => level

/-- The records that are to be kept when something happens while the level in force is `level`. -/
def heard (level : Level) : Happening → List Record
  | emit record => if record.level.reaches level then [record] else []
  | setUp _ | meddle _ _ => []

/-- Is the file at the place left alone by those who have no business with it? -/
def Spares (place : Place) : Happening → Prop
  | meddle change _ => ∀ tree, (change tree).content? place = tree.content? place
  | setUp _ | emit _ => True

end Happening

/-- The host after happenings, one after the other. -/
def performed (settings : Settings) (happenings : List Happening) (host : Host) : Host :=
  happenings.foldl (fun host happening => happening.perform settings host) host

/-- The level in force after happenings: that of the last time that the journal was set up. -/
def lastLevel (level : Level) (happenings : List Happening) : Level :=
  happenings.foldl Happening.levelAfter level

/-- The records that reach the level which is in force when they are emitted, in order. -/
def heard : (level : Level) → List Happening → List Record
  | _, [] => []
  | level, happening :: rest => happening.heard level ++ heard (happening.levelAfter level) rest

/-- Records as lines, one after the other. -/
def transcript (time : String) (records : List Record) : String :=
  String.join (records.map fun record => record.line time ++ "\n")

theorem transcript_append (time : String) (records more : List Record) :
    transcript time (records ++ more) = transcript time records ++ transcript time more := by
  simp [transcript]

section Steps

variable {settings : Settings} {log? : Option LogFile}

/-- Nothing that happens changes the working directory, or the time that lines carry. -/
theorem perform_frame (settings : Settings) (happening : Happening) (host : Host) :
    (happening.perform settings host).cwd = host.cwd ∧
      (happening.perform settings host).journalTime = host.journalTime := by
  cases happening with
  | setUp verbose =>
    have hakin : Akin (left (run settings verbose) host) host := (run_akin settings verbose host).left
    exact ⟨hakin.view Host.cwd, hakin.view Host.journalTime⟩
  | emit record =>
    have halike := said_alike record.level record.speaker record.message host
    exact ⟨halike.view Host.cwd, halike.view Host.journalTime⟩
  | meddle change denied => exact ⟨rfl, rfl⟩

/-- Where the journal has handlers, setting it up changes its level. -/
theorem perform_setUp (settings : Settings) (verbose : Bool) {host : Host}
    (there : host.journal.handlers ≠ []) :
    (Happening.setUp verbose).perform settings host =
      { host with journal := { host.journal with level := levelFor verbose } } := by
  rw [Happening.perform, left, run_again settings verbose there]

/-- A journal that is not set up does not change. -/
theorem perform_journal_of_unset (settings : Settings) (happening : Happening)
    (unset : ∀ verbose, happening ≠ .setUp verbose) (host : Host) :
    (happening.perform settings host).journal = host.journal := by
  cases happening with
  | setUp verbose => exact absurd rfl (unset verbose)
  | emit record =>
    exact (said_alike record.level record.speaker record.message host).view Host.journal
  | meddle change denied => rfl

/-- A journal with handlers keeps them, and has the level of the last time it was set up. -/
theorem perform_journal (settings : Settings) (happening : Happening) {host : Host}
    (there : host.journal.handlers ≠ []) :
    (happening.perform settings host).journal =
      ⟨happening.levelAfter host.journal.level, host.journal.handlers⟩ := by
  cases happening with
  | setUp verbose => rw [perform_setUp settings verbose there, Happening.levelAfter]
  | emit record => exact perform_journal_of_unset settings (.emit record) nofun host
  | meddle change denied =>
    exact perform_journal_of_unset settings (.meddle change denied) nofun host

/-- Between the two hosts a text was added to standard error, and to the log where it was spared. -/
structure Adds (log? : Option LogFile) (spared : Place → Prop) (before : Host) (text : String)
    (after : Host) : Prop where
  stderr : after.stderr = before.stderr ++ text
  log : ∀ log ∈ log?, spared log.place → ∀ content,
    before.files.content? log.place = some content →
      after.files.content? log.place = some (content ++ text)

theorem Adds.nothing {spared : Place → Prop} {before after : Host}
    (stderr : after.stderr = before.stderr)
    (content : ∀ place, spared place →
      after.files.content? place = before.files.content? place) :
    Adds log? spared before "" after := by
  refine ⟨by rw [stderr, String.append_empty], fun log _ hspared held hheld => ?_⟩
  rw [content log.place hspared, hheld, String.append_empty]

theorem Adds.trans {spared spared' : Place → Prop} {a b c : Host} {text text' : String}
    (h : Adds log? spared a text b) (h' : Adds log? spared' b text' c) :
    Adds log? (fun place => spared place ∧ spared' place) a (text ++ text') c := by
  refine ⟨?_, fun log hlog hspared content hheld => ?_⟩
  · rw [h'.stderr, h.stderr, String.append_assoc]
  · rw [h'.log log hlog hspared.2 _ (h.log log hlog hspared.1 content hheld), String.append_assoc]

/-- Whatever happens, what is added is the records that are to be kept. -/
theorem perform_adds (happening : Happening) {host : Host}
    (handlers : host.journal.handlers = handlersFor log?)
    (unbounded : ∀ log ∈ log?, log.maxBytes ≤ 0) :
    Adds log? (fun place => happening.Spares place) host
      (transcript host.journalTime (happening.heard host.journal.level))
      (happening.perform settings host) := by
  cases happening with
  | setUp verbose =>
    rw [perform_setUp settings verbose (handlers ▸ handlersFor_ne_nil log?)]
    exact .nothing rfl fun _ _ => rfl
  | emit record =>
    show Adds _ _ _ _ (said record.level record.speaker record.message host)
    rw [Happening.heard]
    cases hreaches : record.level.reaches host.journal.level with
    | false =>
      rw [said_unheard hreaches, if_neg Bool.false_ne_true]
      exact .nothing rfl fun _ _ => rfl
    | true =>
      have hline : transcript host.journalTime [record] = record.line host.journalTime ++ "\n" := by
        simp [transcript]
      rw [said_heard handlers unbounded hreaches, if_pos rfl, hline]
      refine ⟨rfl, fun log hlog _ content hheld => ?_⟩
      obtain rfl := Option.mem_def.mp hlog
      dsimp only
      rw [withText, content?_append, if_pos rfl, hheld, Option.getD_some]
  | meddle change denied => exact .nothing rfl fun _ spares => spares host.files

end Steps

section Runs

variable {settings : Settings} {log? : Option LogFile}

theorem performed_frame (settings : Settings) : ∀ (happenings : List Happening) (host : Host),
    (performed settings happenings host).cwd = host.cwd ∧
      (performed settings happenings host).journalTime = host.journalTime := by
  intro happenings
  induction happenings with
  | nil => exact fun host => ⟨rfl, rfl⟩
  | cons happening rest ih =>
    intro host
    obtain ⟨hcwd, htime⟩ := perform_frame settings happening host
    exact ⟨(ih _).1.trans hcwd, (ih _).2.trans htime⟩

theorem performed_journal_of_unset (settings : Settings) :
    ∀ (happenings : List Happening) (host : Host), (∀ verbose, .setUp verbose ∉ happenings) →
      (performed settings happenings host).journal = host.journal := by
  intro happenings
  induction happenings with
  | nil => exact fun host _ => rfl
  | cons happening rest ih =>
    intro host unset
    have hrest := ih (happening.perform settings host) fun verbose hmem =>
      unset verbose (List.mem_cons_of_mem _ hmem)
    have hfirst : ∀ verbose, happening ≠ .setUp verbose := fun verbose heq =>
      unset verbose (heq ▸ List.mem_cons_self ..)
    exact hrest.trans (perform_journal_of_unset settings happening hfirst host)

theorem performed_journal (settings : Settings) :
    ∀ (happenings : List Happening) (host : Host), host.journal.handlers ≠ [] →
      (performed settings happenings host).journal =
        ⟨lastLevel host.journal.level happenings, host.journal.handlers⟩ := by
  intro happenings
  induction happenings with
  | nil => exact fun host _ => rfl
  | cons happening rest ih =>
    intro host there
    have hstep := perform_journal settings happening there
    have hrest := ih (happening.perform settings host) (by rw [hstep]; exact there)
    rw [hstep] at hrest
    exact hrest

/-- **Every record that reaches the level in force is added**, once and in order. -/
theorem performed_adds (settings : Settings) (unbounded : ∀ log ∈ log?, log.maxBytes ≤ 0) :
    ∀ (happenings : List Happening) (host : Host), host.journal.handlers = handlersFor log? →
      Adds log? (fun place => ∀ happening ∈ happenings, happening.Spares place) host
        (transcript host.journalTime (heard host.journal.level happenings))
        (performed settings happenings host) := by
  intro happenings
  induction happenings with
  | nil => exact fun host _ => .nothing rfl fun _ _ => rfl
  | cons happening rest ih =>
    intro host handlers
    have hjournal := perform_journal settings happening (handlers ▸ handlersFor_ne_nil log?)
    have hrest := ih (happening.perform settings host) (by rw [hjournal]; exact handlers)
    rw [hjournal, (perform_frame settings happening host).2] at hrest
    simp only [List.forall_mem_cons, heard, transcript_append]
    exact (perform_adds happening handlers unbounded).trans hrest

end Runs

/-! ## The journal over time -/

/-- A journal with handlers, after whatever has happened since `start`. -/
structure Lasting (settings : Settings) (start : Host) (happenings : List Happening) (after : Host) :
    Prop where
  /-- The handlers never change, and the level is that of the last time it was set up. -/
  journal : after.journal = ⟨lastLevel start.journal.level happenings, start.journal.handlers⟩
  /-- Setting it up once more changes the level, and nothing else. -/
  again : ∀ verbose, run settings verbose after =
    .ok () { after with journal := { after.journal with level := levelFor verbose } }
  /-- A record below the level in force is kept nowhere. -/
  unheard : ∀ record : Record, record.level.reaches after.journal.level = false →
    (Happening.emit record).perform settings after =
      { after with records := after.records.push record }

/-- A journal that was set up for the first time on `before`, with `set` left behind, after whatever
has happened since. -/
structure Transcribed (settings : Settings) (log? : Option LogFile) (before set : Host)
    (happenings : List Happening) (after : Host) : Prop where
  /-- A record at or above the level in force is added once to standard error and once to the log. -/
  heard : ∀ record : Record, record.level.reaches after.journal.level = true →
    (Happening.emit record).perform settings after =
      { after with
        records := after.records.push record
        stderr := after.stderr ++ (record.line after.journalTime ++ "\n")
        files := withText (record.line after.journalTime ++ "\n") log? after.files }
  /-- Standard error has got the records that reached the level in force, in order. -/
  stderr : after.stderr = set.stderr ++
    transcript set.journalTime (JournalSetup.heard set.journal.level happenings)
  /-- The log holds what it held before, and then the same records. -/
  log : ∀ log ∈ log?, (∀ happening ∈ happenings, happening.Spares log.place) →
    after.files.content? log.place = some ((before.files.content? log.place).getD "" ++
      transcript set.journalTime (JournalSetup.heard set.journal.level happenings))

section History

variable {settings : Settings} {start before set : Host}

theorem lasting_performed (there : start.journal.handlers ≠ []) (happenings : List Happening) :
    Lasting settings start happenings (performed settings happenings start) := by
  have hjournal := performed_journal settings happenings start there
  exact {
    journal := hjournal
    again := fun verbose => run_again settings verbose (by rw [hjournal]; exact there)
    unheard := fun record below => said_unheard below }

theorem transcribed_performed {log? : Option LogFile} (begun : Begun before log? set)
    (handlers : set.journal.handlers = handlersFor log?)
    (unbounded : ∀ log ∈ log?, log.maxBytes ≤ 0) (happenings : List Happening) :
    Transcribed settings log? before set happenings (performed settings happenings set) := by
  have hjournal := performed_journal settings happenings set (handlers ▸ handlersFor_ne_nil log?)
  have hadds := performed_adds settings unbounded happenings set handlers
  exact {
    heard := fun record => said_heard (by rw [hjournal]; exact handlers) unbounded
    stderr := hadds.stderr
    log := fun log hlog spared => hadds.log log hlog spared _ (begun log hlog) }

/-- **No record is written twice, and none is lost, however often the journal is set up.** Where it had
no handlers, the first time gives it the console, and the log if that can be opened then.  After that,
and where it had handlers in the first place, it keeps what it has: setting it up again changes the
level alone.  A record below the level in force is kept nowhere.  If the log does not rotate, every
other record is written once to standard error and once to the log, in order, after what the log
held.  That the variables of a process hold no null character is what keeps the first time from
breaking off. -/
theorem journal_history {env : Environment} {envFile : Option String} {host : Host}
    (loads : Settings.loaded env envFile host.cwd = .ok settings) (plain : env.Plain)
    (absolute : host.cwd.isAbsolute = true) (here : holdsNull host.cwd = false) :
    (host.journal.handlers = [] → ∀ early verbose, (∀ wish, .setUp wish ∉ early) →
      ∃ log? set, Logs settings (performed settings early host) log? ∧
        run settings verbose (performed settings early host) = .ok () set ∧
        set.journal = ⟨levelFor verbose, handlersFor log?⟩ ∧
        ∀ later, Lasting settings set later (performed settings later set) ∧
          (settings.logMaxBytes ≤ 0 → Transcribed settings log? (performed settings early host) set
            later (performed settings later set))) ∧
      (host.journal.handlers ≠ [] → ∀ happenings,
        Lasting settings host happenings (performed settings happenings host)) := by
  refine ⟨fun bare early verbose unset => ?_, fun there => lasting_performed there⟩
  have hcwd := (performed_frame settings early host).1
  have hjournal := performed_journal_of_unset settings early host unset
  obtain ⟨_, set, hran, log?, hlogs, hset, hbegun⟩ :=
    (run_bare (hjournal ▸ bare) (hcwd ▸ absolute) (Settings.legible_of_loaded plain loads)
      (hcwd ▸ here) verbose).exists_ok
  have hhandlers : set.journal.handlers = handlersFor log? := by rw [hset]
  refine ⟨log?, set, hlogs, hran, hset, fun later => ⟨?_, fun hbound => ?_⟩⟩
  · exact lasting_performed (hhandlers ▸ handlersFor_ne_nil log?) later
  · refine transcribed_performed hbegun hhandlers (fun log hlog => ?_) later
    cases hlogs with
    | opened opens =>
      obtain rfl := Option.some.inj hlog
      exact hbound
    | unopened fails => exact absurd hlog (by simp)

end History

/-! ### A journal that is set up three times -/

/-- The data directory is `/d`, and the log in it never rotates. -/
def lastingEnv : Environment := { bindings := [("RESTARTER_HOME", "/d"), ("LOG_MAX_BYTES", "0")] }

/-- A host with a log in its data directory. -/
def loggedHost : Host where
  files := { directories := [["work"], ["d"]], files := [(["d", "restarter.log"], "old\n")] }

/-- The journal is asked for more, and then for less, when the log may not be opened any more. -/
def changes : List Happening :=
  [.emit ⟨.info, "a", "one"⟩, .setUp true, .emit ⟨.debug, "b", "two"⟩,
    .meddle id ["/d", "/d/restarter.log"], .setUp false, .emit ⟨.debug, "b", "three"⟩,
    .emit ⟨.error, "c", "four"⟩]

/-- The lines of the records that are kept meanwhile. -/
def keptLines : String :=
  "2023-11-14 22:13:20,125 - a - INFO - one\n" ++
  "2023-11-14 22:13:20,125 - b - DEBUG - two\n" ++
  "2023-11-14 22:13:20,125 - c - ERROR - four\n"

theorem journal_history_changes :
    lastingEnv.Plain ∧ loggedHost.cwd.isAbsolute = true ∧ holdsNull loggedHost.cwd = false ∧
      loggedHost.journal.handlers = [] ∧
      ∃ settings set, Settings.loaded lastingEnv none loggedHost.cwd = .ok settings ∧
        settings.logMaxBytes ≤ 0 ∧ run settings false loggedHost = .ok () set ∧
        (performed settings changes set).journal =
          ⟨.info, [.console, .file (logFile settings loggedHost.cwd)]⟩ ∧
        (performed settings changes set).stderr = set.stderr ++ keptLines ∧
        (performed settings changes set).files.content? ["d", "restarter.log"] =
          some ("old\n" ++ keptLines) := by
  have hplain : lastingEnv.Plain := by
    intro name value hvalue
    simp only [Environment.get?, lastingEnv, List.lookup_cons, List.lookup_nil] at hvalue
    split at hvalue
    · exact Option.some.inj hvalue ▸ by decide
    · split at hvalue
      · exact Option.some.inj hvalue ▸ by decide
      · exact absurd hvalue (by simp)
  have hread : (Settings.loaded lastingEnv none loggedHost.cwd).map
      (fun settings => (settings.dataDirectory, settings.logMaxBytes)) =
        .ok (⟨.slash, ["d"]⟩, 0) := rfl
  obtain ⟨settings, hloads⟩ : ∃ settings, Settings.loaded lastingEnv none loggedHost.cwd =
      .ok settings := by
    cases hloaded : Settings.loaded lastingEnv none loggedHost.cwd with
    | ok settings => exact ⟨settings, rfl⟩
    | error f =>
      rw [hloaded] at hread
      exact absurd hread (by simp [Except.map])
  rw [hloads] at hread
  obtain ⟨hdata, hbytes⟩ := Prod.mk.inj (Except.ok.inj hread)
  have hbound : settings.logMaxBytes ≤ 0 := Int.le_of_eq hbytes
  obtain ⟨log?, set, hlogs, hran, hset, hlater⟩ :=
    (journal_history hloads hplain rfl rfl).1 rfl [] false (fun _ => List.not_mem_nil)
  obtain ⟨hlasting, htranscribed⟩ := hlater changes
  have hplace : (logFile settings loggedHost.cwd).place = ["d", "restarter.log"] := by
    rw [logFile_place, dataPlace, hdata]
    rfl
  have hopens : Opens settings loggedHost := by
    have hlog : (logFile settings loggedHost.cwd).path = ⟨.slash, ["d", "restarter.log"]⟩ := by
      show (loggedHost.cwd / settings.supervisorLog).withoutDoubleDots = _
      rw [Settings.supervisorLog, hdata]
      decide
    rw [Opens, hdata, hlog]
    exact ⟨_, _, _, rfl, rfl⟩
  obtain rfl : log? = some (logFile settings loggedHost.cwd) := by
    cases hlogs with
    | opened _ => rfl
    | unopened fails => exact absurd hopens fails
  have htime : set.journalTime = loggedHost.journalTime :=
    ((run_akin settings false loggedHost).of_ok hran).view Host.journalTime
  have hkept : transcript set.journalTime (heard set.journal.level changes) = keptLines := by
    rw [hset, htime]
    rfl
  refine ⟨hplain, rfl, rfl, rfl, settings, set, hloads, hbound, hran, ?_, ?_, ?_⟩
  · rw [hlasting.journal, hset]
    rfl
  · rw [(htranscribed hbound).stderr, hkept]
  · have hspared : ∀ happening ∈ changes,
        happening.Spares (logFile settings loggedHost.cwd).place := by
      simp [changes, Happening.Spares]
    have hcontent := (htranscribed hbound).log _ rfl hspared
    rw [hplace, hkept] at hcontent
    exact hcontent

end JournalSetup

end Relaunch
