/-
  Sets of handles.

  A search gives one handle for each process, and the retirement takes the one with the least pid.
  Handles count as equal when their pids are, so everything here is said about pids:

  * `distinct` keeps the pids that there are (`mem_pids_distinct`), each of them once
    (`nodup_distinct`) and by its first handle (`find?_distinct`);
  * `least?` finds a handle as soon as there is one (`least?_eq_none`), and it is the one of those
    given that has the least pid (`least?_eq_some_iff`);
  * `sort` puts them in order (`pids_sort_increasing`), so that the least comes first (`head?_sort`).
-/
import Relaunch.Handle
import Mathlib.Data.List.Nodup

namespace Relaunch.Handle

/-- The pids of handles, in order. -/
def pids (handles : List Handle) : List Int := handles.map (·.pid)

/-! ## One handle for each process -/

/-- Handles are told apart by their pids alone. -/
theorem contains_iff {handles : List Handle} {handle : Handle} :
    handles.contains handle = true ↔ handle.pid ∈ pids handles := by
  induction handles with
  | nil => simp [pids]
  | cons first rest ih =>
    have hfirst : (handle == first) = true ↔ handle.pid = first.pid := beq_iff_eq (α := Int)
    rw [List.contains_cons, Bool.or_eq_true, ih, hfirst]
    simp [pids]

/-- Adding a handle adds its pid, be it new or not. -/
theorem mem_pids_add {handles : List Handle} {handle : Handle} {pid : Int} :
    pid ∈ pids (add handles handle) ↔ pid ∈ pids handles ∨ pid = handle.pid := by
  unfold add
  split
  · rename_i h
    constructor
    · exact Or.inl
    · rintro (h' | rfl)
      · exact h'
      · exact contains_iff.mp h
  · simp [pids]

/-- A pid that is there already is not added again. -/
theorem nodup_add {handles : List Handle} {handle : Handle} (h : (pids handles).Nodup) :
    (pids (add handles handle)).Nodup := by
  unfold add
  split
  · exact h
  · rename_i hnew
    have hpid : handle.pid ∉ pids handles := fun h' => hnew (contains_iff.mpr h')
    unfold pids at h hpid ⊢
    rw [List.map_append, List.map_singleton]
    exact List.nodup_append'.mpr ⟨h, List.nodup_singleton _, List.disjoint_singleton.mpr hpid⟩

/-- Adding handles one by one adds their pids, once each. -/
theorem foldl_add (handles : List Handle) : ∀ start : List Handle,
    (∀ pid, pid ∈ pids (handles.foldl add start) ↔ pid ∈ pids start ∨ pid ∈ pids handles) ∧
    ((pids start).Nodup → (pids (handles.foldl add start)).Nodup) := by
  induction handles with
  | nil => intro start; simp [pids]
  | cons first rest ih =>
    -- The first handle goes into the start, for which the rest is known.
    intro start
    obtain ⟨hpids, hnodup⟩ := ih (add start first)
    refine ⟨fun pid => ?_, fun h => hnodup (nodup_add h)⟩
    rw [List.foldl_cons, hpids, mem_pids_add]
    simp only [pids, List.map_cons, List.mem_cons]
    tauto

/-- Every pid is kept. -/
theorem mem_pids_distinct {handles : List Handle} {pid : Int} :
    pid ∈ pids (distinct handles) ↔ pid ∈ pids handles := by
  rw [distinct, (foldl_add handles []).1]
  simp [pids]

/-- No pid is kept twice. -/
theorem nodup_distinct (handles : List Handle) : (pids (distinct handles)).Nodup :=
  (foldl_add handles []).2 List.nodup_nil

/-- Of the handles of one pid, adding handles one by one keeps the first. -/
theorem find?_foldl_add (handles : List Handle) (pid : Int) : ∀ start : List Handle,
    (handles.foldl add start).find? (fun handle => handle.pid == pid) =
      (start ++ handles).find? fun handle => handle.pid == pid := by
  induction handles with
  | nil => intro start; simp
  | cons first rest ih =>
    intro start
    rw [List.foldl_cons, ih]
    by_cases hthere : start.contains first = true
    · -- A handle that is left out is not the first of its pid.
      rw [add, if_pos hthere, List.find?_append, List.find?_append, List.find?_cons]
      split
      · rename_i hpid
        obtain ⟨other, hother, heq⟩ := List.mem_map.mp (contains_iff.mp hthere)
        have hsome : (start.find? fun handle => handle.pid == pid).isSome = true :=
          List.find?_isSome.mpr ⟨other, hother, by rw [heq]; exact hpid⟩
        obtain ⟨kept, hkept⟩ := Option.isSome_iff_exists.mp hsome
        rw [hkept, Option.some_or, Option.some_or]
      · rfl
    · rw [add, if_neg hthere, List.append_assoc, List.singleton_append]

/-- The handle that is kept for a pid is the first one with it. -/
theorem find?_distinct (handles : List Handle) (pid : Int) :
    (distinct handles).find? (fun handle => handle.pid == pid) =
      handles.find? fun handle => handle.pid == pid := by
  rw [distinct, find?_foldl_add, List.nil_append]

/-- Where every pid stands once, a handle is the first one of its pid. -/
theorem mem_iff_find? {handles : List Handle} (once : (pids handles).Nodup) {handle : Handle} :
    handle ∈ handles ↔ handles.find? (fun other => other.pid == handle.pid) = some handle := by
  constructor
  · intro hmem
    have hsome : (handles.find? fun other => other.pid == handle.pid).isSome = true :=
      List.find?_isSome.mpr ⟨handle, hmem, beq_self_eq_true _⟩
    obtain ⟨first, hfirst⟩ := Option.isSome_iff_exists.mp hsome
    have hpid : first.pid = handle.pid := by simpa using List.find?_some hfirst
    rw [hfirst, List.inj_on_of_nodup_map once (List.mem_of_find?_eq_some hfirst) hmem hpid]
  · exact List.mem_of_find?_eq_some

/-! ## The least pid -/

/-- The running choice is one of the handles seen, and no pid seen is smaller. -/
theorem foldl_least (handles : List Handle) : ∀ start : Handle,
    let least :=
      handles.foldl (fun least other => if other.before least then other else least) start
    least ∈ start :: handles ∧ ∀ h ∈ start :: handles, least.pid ≤ h.pid := by
  induction handles with
  | nil => intro start; simp
  | cons first rest ih =>
    intro start
    simp only [List.foldl_cons]
    have hbefore : first.before start = true ↔ first.pid < start.pid := by simp [before]
    -- The choice moves on to the first handle only if its pid is smaller.
    by_cases hlt : first.pid < start.pid
    · rw [if_pos (hbefore.mpr hlt)]
      obtain ⟨hmem, hle⟩ := ih first
      refine ⟨List.mem_cons_of_mem _ hmem, fun h hh => ?_⟩
      rcases List.mem_cons.mp hh with rfl | hh
      · have := hle first (List.mem_cons_self ..)
        omega
      · exact hle h hh
    · rw [if_neg (fun h => hlt (hbefore.mp h))]
      obtain ⟨hmem, hle⟩ := ih start
      refine ⟨?_, fun h hh => ?_⟩
      · rcases List.mem_cons.mp hmem with heq | hmem
        · rw [heq]
          exact List.mem_cons_self ..
        · exact List.mem_cons_of_mem _ (List.mem_cons_of_mem _ hmem)
      · rcases List.mem_cons.mp hh with rfl | hh
        · exact hle h (List.mem_cons_self ..)
        · rcases List.mem_cons.mp hh with rfl | hh
          · have := hle start (List.mem_cons_self ..)
            omega
          · exact hle h (List.mem_cons_of_mem _ hh)

/-- Nothing is found among no handles, and only there. -/
theorem least?_eq_none {handles : List Handle} : least? handles = none ↔ handles = [] := by
  cases handles <;> simp [least?]

theorem ne_nil_of_least? {handles : List Handle} {least : Handle}
    (h : least? handles = some least) : handles ≠ [] := by
  rintro rfl
  simp [least?] at h

/-- What is found is one of the handles given. -/
theorem least?_mem {handles : List Handle} {least : Handle} (h : least? handles = some least) :
    least ∈ handles := by
  cases handles with
  | nil => simp [least?] at h
  | cons first rest =>
    rw [least?, Option.some.injEq] at h
    exact h ▸ (foldl_least rest first).1

/-- No handle has a smaller pid than the one that is found. -/
theorem least?_le {handles : List Handle} {least : Handle} (h : least? handles = some least) :
    ∀ other ∈ handles, least.pid ≤ other.pid := by
  cases handles with
  | nil => simp [least?] at h
  | cons first rest =>
    rw [least?, Option.some.injEq] at h
    exact h ▸ (foldl_least rest first).2

/-- Where every pid stands once, there is one handle with the least. -/
theorem least?_eq_some_iff {handles : List Handle} (once : (pids handles).Nodup) {least : Handle} :
    least? handles = some least ↔
      least ∈ handles ∧ ∀ other ∈ handles, least.pid ≤ other.pid := by
  constructor
  · intro h
    exact ⟨least?_mem h, least?_le h⟩
  · rintro ⟨hmem, hle⟩
    -- Whatever is found has the same pid, and there is one handle of a pid.
    cases hleast : least? handles with
    | none =>
      rw [least?_eq_none.mp hleast] at hmem
      exact absurd hmem List.not_mem_nil
    | some other =>
      have hother := least?_mem hleast
      have hpid : other.pid = least.pid :=
        Int.le_antisymm (least?_le hleast least hmem) (hle other hother)
      rw [List.inj_on_of_nodup_map once hother hmem hpid]

/-! ## Handles in order -/

/-- Sorting neither adds nor loses a handle. -/
theorem sort_perm (handles : List Handle) : (sort handles).Perm handles :=
  List.mergeSort_perm handles upTo

/-- The comparison that sorts is the one of pids, so the pids never decrease. -/
theorem pids_sort_nondecreasing (handles : List Handle) :
    (sort handles).Pairwise fun a b => a.pid ≤ b.pid := by
  have hsorted : (sort handles).Pairwise fun a b => upTo a b = true := by
    refine List.pairwise_mergeSort (fun a b c hab hbc => ?_) (fun a b => ?_) handles
    · simp only [upTo, decide_eq_true_eq] at hab hbc ⊢
      omega
    · simp only [upTo, Bool.or_eq_true, decide_eq_true_eq]
      omega
  exact hsorted.imp of_decide_eq_true

/-- The pids of handles of different processes strictly increase once the handles are sorted. -/
theorem pids_sort_increasing {handles : List Handle} (h : (pids handles).Nodup) :
    (pids (sort handles)).Pairwise (· < ·) := by
  have hnodup : (pids (sort handles)).Nodup := ((sort_perm handles).map _).nodup_iff.mpr h
  have hsorted : (pids (sort handles)).Pairwise (· ≤ ·) :=
    List.pairwise_map.mpr (pids_sort_nondecreasing handles)
  exact hsorted.imp₂ (fun a b hle hne => Int.lt_iff_le_and_ne.mpr ⟨hle, hne⟩) hnodup

/-- Of the handles of different processes, the one with the least pid comes first. -/
theorem head?_sort {handles : List Handle} (h : (pids handles).Nodup) :
    (sort handles).head? = least? handles := by
  cases hsort : sort handles with
  | nil =>
    have hnil : handles = [] := List.Perm.eq_nil (hsort ▸ sort_perm handles).symm
    rw [hnil]
    rfl
  | cons first rest =>
    have hperm : ∀ other, other ∈ handles ↔ other ∈ first :: rest := fun other =>
      hsort ▸ (sort_perm handles).mem_iff.symm
    have hsorted := pids_sort_nondecreasing handles
    rw [hsort] at hsorted
    refine ((least?_eq_some_iff h).mpr ⟨(hperm first).mpr (List.mem_cons_self ..), ?_⟩).symm
    intro other hother
    rcases List.mem_cons.mp ((hperm other).mp hother) with rfl | hrest
    · exact Int.le_refl _
    · exact List.rel_of_pairwise_cons hsorted hrest

end Relaunch.Handle
