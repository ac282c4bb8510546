/-
  What a listing tells its reader.

  A listing has a line for each process: the pid, a tab, and the command line as it is.  Its reader
  splits it at the line feeds and cuts each line at its first tab (`readBack`).

  * No tab does harm: the first one of a line stands after the pid, which holds none.
  * A line feed in a command line breaks the entry in two.  The entries of other processes keep their
    lines (`linesOf_listing`), but what follows the line feed is a line of its own, and may look like
    an entry: `listing_forged` says that a process can add any entry it likes.

  `readBack_listing` puts the two together: the reader gets back what was listed just if no command
  line holds a line feed.  `listing_reads_back` says so of the runs of the program.
-/
import Relaunch.Proofs.Listing
import Relaunch.Proofs.Numerals

namespace Relaunch.App

open Relaunch.Host Relaunch.Discovery

/-! ## The reader -/

/-- The lines of a text, each without the line feed that ends it.  What follows the last line feed is
no line. -/
def linesOf (text : String) : List (List Char) := (text.toList.splitOn '\n').dropLast

/-- The pid and the command line that a line of a listing shows. -/
def readLine (line : List Char) : Option (Int × String) :=
  match line.dropWhile (· != '\t') with
  | [] => none
  | _ :: commandLine =>
    (String.ofList (line.takeWhile (· != '\t'))).toInt?.map (·, String.ofList commandLine)

/-- The entries of a listing, if each of its lines is one. -/
def readBack (text : String) : Option (List (Int × String)) := (linesOf text).mapM readLine

/-! ## The listing -/

/-- What the program prints for the handles, in this order. -/
def listing (handles : List Handle) : String := String.join (handles.map listingLine)

/-- What a reader should get back for a handle. -/
def entryOf (handle : Handle) : Int × String := (handle.pid, handle.commandLine)

/-- What is printed for a handle, without the line feed at the end. -/
def lineFor (handle : Handle) : List Char :=
  (toString handle.pid).toList ++ '\t' :: handle.commandLine.toList

theorem toList_listingLine (handle : Handle) :
    (listingLine handle).toList = lineFor handle ++ ['\n'] := by
  simp [listingLine, lineFor]

theorem toList_listing (handles : List Handle) :
    (listing handles).toList = handles.flatMap (lineFor · ++ ['\n']) := by
  simp [listing, List.flatMap_map, toList_listingLine]

theorem listing_cons (handle : Handle) (rest : List Handle) :
    listing (handle :: rest) = listingLine handle ++ listing rest := by
  simp [listing]

/-! ## Lines -/

theorem linesOf_append {line rest : List Char} {text : String}
    (h : text.toList = line ++ '\n' :: rest) :
    linesOf text = line.splitOn '\n' ++ linesOf (String.ofList rest) := by
  rw [linesOf, h, linesOf, String.toList_ofList, List.splitOn, List.splitOn,
    List.splitOnP_append_cons _ _ (by simp), List.dropLast_append_of_ne_nil]
  · rfl
  · exact List.splitOnP_ne_nil _ _

/-- **Every process keeps its own lines**: those of a listing are those of its entries, one after the
other. -/
theorem linesOf_listing (handles : List Handle) :
    linesOf (listing handles) = handles.flatMap fun handle => (lineFor handle).splitOn '\n' := by
  induction handles with
  | nil => rfl
  | cons handle rest ih =>
    have hlist : (listing (handle :: rest)).toList =
        lineFor handle ++ '\n' :: (listing rest).toList := by
      rw [listing_cons, String.toList_append, toList_listingLine]
      simp
    rw [linesOf_append hlist, String.ofList_toList, ih, List.flatMap_cons]

theorem length_splitOn (line : List Char) :
    (line.splitOn '\n').length = line.count '\n' + 1 := by
  induction line with
  | nil => rfl
  | cons c rest ih =>
    rw [List.splitOn] at ih ⊢
    rw [List.splitOnP_cons_eq_if_modifyHead, List.count_cons]
    split
    · rw [List.length_cons, ih]
    · rw [List.length_modifyHead, ih, Nat.add_zero]

/-- An entry takes up one line, and one more for each line feed of the command line. -/
theorem length_lineFor (handle : Handle) :
    ((lineFor handle).splitOn '\n').length = handle.commandLine.toList.count '\n' + 1 := by
  have hpid : (toString handle.pid).toList.count '\n' = 0 :=
    List.count_eq_zero.mpr (not_mem_toString _ (by decide) (by decide))
  rw [length_splitOn, lineFor, List.count_append, hpid, List.count_cons]
  simp

/-! ## Reading back -/

/-- An entry is cut where it was put together, whatever the command line holds. -/
theorem readLine_lineFor (handle : Handle) : readLine (lineFor handle) = some (entryOf handle) := by
  have hpid : ∀ c ∈ (toString handle.pid).toList, (c != '\t') = true := by
    intro c hc
    exact bne_iff_ne.mpr fun h => not_mem_toString _ (by decide) (by decide) (h ▸ hc)
  rw [readLine, lineFor, List.dropWhile_append_of_pos hpid, List.takeWhile_append_of_pos hpid]
  simp [entryOf, show toString handle.pid = handle.pid.repr from rfl]

theorem linesOf_listing_of_unbroken {handles : List Handle}
    (unbroken : ∀ handle ∈ handles, '\n' ∉ handle.commandLine.toList) :
    linesOf (listing handles) = handles.map lineFor := by
  rw [linesOf_listing, ← List.flatMap_singleton' (handles.map lineFor), List.flatMap_map]
  refine List.flatMap_congr fun handle hmem => ?_
  refine List.splitOnP_eq_singleton fun c hc => ?_
  rw [lineFor, List.mem_append, List.mem_cons] at hc
  rw [beq_eq_false_iff_ne]
  rintro rfl
  rcases hc with hpid | htab | hcommand
  · exact not_mem_toString _ (by decide) (by decide) hpid
  · exact absurd htab (by decide)
  · exact unbroken handle hmem hcommand

theorem length_linesOf_listing (handles : List Handle) :
    (linesOf (listing handles)).length =
      (handles.map fun handle => handle.commandLine.toList.count '\n').sum + handles.length := by
  rw [linesOf_listing, List.length_flatMap]
  simp only [length_lineFor]
  rw [List.sum_map_add]
  simp

theorem length_of_mapM {α β : Type} {f : α → Option β} :
    ∀ {xs : List α} {ys : List β}, xs.mapM f = some ys → ys.length = xs.length := by
  intro xs
  induction xs with
  | nil =>
    rintro ys h
    obtain rfl : [] = ys := by simpa using h
    rfl
  | cons x rest ih =>
    intro ys h
    rw [List.mapM_cons] at h
    obtain ⟨y, -, h⟩ := Option.bind_eq_some_iff.mp h
    obtain ⟨more, hmore, h⟩ := Option.bind_eq_some_iff.mp h
    obtain rfl : y :: more = ys := by simpa using h
    rw [List.length_cons, List.length_cons, ih hmore]

/-- **A listing can be read back just if no command line breaks a line.** -/
theorem readBack_listing (handles : List Handle) :
    readBack (listing handles) = some (handles.map entryOf) ↔
      ∀ handle ∈ handles, '\n' ∉ handle.commandLine.toList := by
  constructor
  · intro h handle hmem
    -- There are as many lines as handles, so there is no room for another line feed.
    have hlength := length_of_mapM h
    rw [List.length_map, length_linesOf_listing] at hlength
    have hnone : (handles.map fun handle => handle.commandLine.toList.count '\n').sum = 0 := by
      omega
    exact List.count_eq_zero.mp
      (List.sum_eq_zero_iff.mp hnone _ (List.mem_map_of_mem hmem))
  · intro h
    rw [readBack, linesOf_listing_of_unbroken h]
    induction handles with
    | nil => rfl
    | cons handle rest ih =>
      rw [List.map_cons, List.mapM_cons, readLine_lineFor,
        ih fun other hmem => h other (List.mem_cons_of_mem _ hmem)]
      rfl

/-! ## Forgery -/

/-- The process with the command line `commandLine`, a line feed, and then the entry of another. -/
def forging (pid : Int) (commandLine : String) (other : Handle) : Handle where
  pid := pid
  commandLine := commandLine ++ "\n" ++ String.ofList (lineFor other)

/-- **A process can add any entry to a listing**: the listing is that of two processes. -/
theorem listing_forged (pid : Int) (commandLine : String) (other : Handle) (rest : List Handle) :
    listing (forging pid commandLine other :: rest) =
      listing (⟨pid, commandLine, none⟩ :: other :: rest) := by
  refine String.toList_injective ?_
  simp [toList_listing, forging, lineFor]

/-! ## The runs of the program -/

/-- A run that listed the handles, in this order, told its reader. -/
structure Tells (printed : List Handle) (stdout : String) : Prop where
  /-- What stands on the lines comes from the entries, one after the other. -/
  lines : linesOf stdout = printed.flatMap fun handle => (lineFor handle).splitOn '\n'
  /-- The reader gets the entries just if no command line breaks a line. -/
  reads : readBack stdout = some (printed.map entryOf) ↔
    ∀ handle ∈ printed, '\n' ∉ handle.commandLine.toList

variable {env : Environment} {envFile : Option String} {arguments : List String} {host : Host}
  {request : Options.Request}

/-- **A listing can be read back**, by increasing pids, just if no command line in it holds a line
feed. -/
theorem listing_reads_back (asks : asked arguments = .ok request)
    (finds : request.command = .find) (absolute : host.cwd.isAbsolute = true)
    (searchable : searchFault? host = none) {query : Query}
    (accepted : Service.query? request.service request.choices.pattern = some query) :
    ∃ printed, (Handle.pids printed).Pairwise (· < ·) ∧
      Ends (run env envFile arguments) (newProcess host)
        (fun code after => Lists env envFile arguments host query printed code after ∧
          Tells printed after.stdout)
        (fun _ _ => Unprepared env envFile arguments host) := by
  refine ⟨Handle.sort (hits query host), Handle.pids_sort_increasing (Handle.nodup_distinct _), ?_⟩
  refine (run_lists asks finds absolute searchable accepted).imp (fun code after h => ⟨h, ?_⟩)
    (fun _ _ h => h)
  cases h with
  | shown ready_for locates all stdout scanned =>
    rw [stdout]
    exact ⟨linesOf_listing _, readBack_listing _⟩

theorem listing_reads_back_twins :
    (∃ request, asked ["find", "svc"] = .ok request ∧ request.command = .find ∧
      Service.query? request.service request.choices.pattern = some sampleQuery) ∧
    twinHost.cwd.isAbsolute = true ∧ searchFault? twinHost = none ∧
    ∃ printed, (Handle.pids printed).Pairwise (· < ·) ∧
      Ends (run {} none ["find", "svc"]) (newProcess twinHost)
        (fun code after => Lists {} none ["find", "svc"] twinHost sampleQuery printed code after ∧
          Tells printed after.stdout)
        (fun _ _ => Unprepared {} none ["find", "svc"] twinHost) :=
  ⟨⟨_, rfl, rfl, rfl⟩, rfl, by decide,
    listing_reads_back (rfl : asked ["find", "svc"] = .ok _) rfl rfl (by decide) rfl⟩

/-- One process, with a line feed and what looks like another process in its command line. -/
def forgingHost : Host where
  processes := [{ pid := 7, commandLine := some ["svc\n9\tforged"] }]

/-- The listing of the one process is read back as that of two. -/
theorem forged_listing_reads_back :
    Handle.pids (hits sampleQuery forgingHost) = [7] ∧
    ∃ after, run {} none ["find", "svc"] (newProcess forgingHost) = .ok 0 after ∧
      readBack after.stdout = some [(7, "svc"), (9, "forged")] := by
  have hread : returned? (run {} none ["find", "svc"]) (newProcess forgingHost)
      (fun code after => (code, after.stdout)) =
        some (0, listing [⟨7, "svc", none⟩, ⟨9, "forged", none⟩]) := by decide +kernel
  obtain ⟨code, after, hran, hvalues⟩ := exists_of_returned? hread
  obtain ⟨rfl, hstdout⟩ := Prod.mk.inj hvalues
  refine ⟨by decide +kernel, after, hran, ?_⟩
  rw [hstdout, (readBack_listing _).mpr (by decide)]
  rfl

end Relaunch.App
