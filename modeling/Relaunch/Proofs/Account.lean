/-
  The account of a retirement.

  A retirement that comes to an outcome can be accounted for in full (`Account`): how many searches it
  made, what lay between them, what it found in the end, and whom it dealt with.

  * `run_account`: every outcome has such an account, whatever the host does on the way: processes
    that come and go, scans that fail, signals and waits that meet faults;
  * `Account.timed`: the time slept follows from it, added up without rounding (`Timed`).
-/
import Relaunch.Proofs.Course
import Relaunch.Proofs.Patience

namespace Relaunch.Retirement

open Relaunch.Host Relaunch.Discovery

/-! ## The time slept -/

/-- The length of a sleep. -/
def sleep? : Call → Option Number
  | .sleep seconds => some seconds
  | _ => none

/-- The sleeps among calls, in order. -/
def sleeps (calls : List Call) : List Number := calls.filterMap sleep?

/-- The time that the sleeps among calls take, added up exactly. -/
def timeSlept (calls : List Call) : ℚ :=
  ((sleeps calls).map fun seconds => seconds.value?.getD 0).sum

theorem sleeps_append (calls more : List Call) :
    sleeps (calls ++ more) = sleeps calls ++ sleeps more :=
  List.filterMap_append

theorem sleeps_searchCalls (host : Host) : sleeps (searchCalls host) = [] := by
  unfold searchCalls
  split <;> rfl

theorem sleeps_farewell {process : TableEntry} {grace : Option Number} {calls : List Call}
    (h : Farewell process grace calls) : sleeps calls = [] := by
  cases h <;> rfl

/-- One sleep for each search in vain. -/
theorem sleeps_pauses (host : Host) (delay : Number) : ∀ n : Nat,
    sleeps (List.replicate n (searchCalls host ++ [.sleep delay])).flatten = List.replicate n delay
  | 0 => rfl
  | n + 1 => by
    rw [List.replicate_succ, List.flatten_cons, sleeps_append, sleeps_pauses host delay n,
      sleeps_append, sleeps_searchCalls]
    rfl

/-! ## The account -/

/-- How a retirement on `host`, with at most `n` searches, came to its outcome: it made `k` searches,
the last of them on the host `last`, and ended with the signals and waits `farewell`. -/
structure Account (query : Query) (patience : Patience) (n : Int) (host : Host) (outcome : Outcome)
    (after : Host) (k : Nat) (last : Host) (farewell : List Call) : Prop where
  attempts : outcome.attempts = k
  positive : 1 ≤ k
  bounded : (k : Int) ≤ n
  /-- All searches but the last found nothing or failed, and each was followed by a pause. -/
  earlier : Fruitless query patience.delay host (k - 1) last
  /-- The dealings with the machine, in order. -/
  calls : after.calls.toList = host.calls.toList ++
    (List.replicate (k - 1) (searchCalls host ++ [.sleep patience.delay])).flatten ++
    searchCalls host ++ farewell
  /-- Nothing was found just if all searches that there may be found nothing or failed. -/
  notFound_iff : outcome.status = .notFound ↔
    ∃ rested, Fruitless query patience.delay host (n.toNat - 1) rested ∧ found query rested = []
  notFound : outcome.status = .notFound →
    (k : Int) = n ∧ outcome.target = none ∧ outcome.candidates = [] ∧ farewell = []
  /-- Otherwise the last search is the first one that found something, and the process with the least
  pid among what it found is the only one that was dealt with. -/
  retired : outcome.status ≠ .notFound → found query last ≠ [] ∧
    outcome.candidates = found query last ∧
    ∃ target process, outcome.target = some target ∧ target ∈ outcome.candidates ∧
      (∀ other ∈ outcome.candidates, target.pid ≤ other.pid) ∧ process.pid = target.pid ∧
      (afterSearch last).first? target.pid = some process ∧
      Farewell process patience.grace farewell ∧
      (outcome.status = .ended ↔ (parting process patience.grace).fault = none)

/-- The time that a retirement of `k` searches slept, added up exactly, when the delay has the value
`d`. -/
structure Timed (patience : Patience) (host : Host) (outcome : Outcome) (after : Host) (k : Nat)
    (d slept longest : ℚ) : Prop where
  total : timeSlept after.calls.toList = timeSlept host.calls.toList + slept
  pauses : slept = (k - 1) * d
  longest_eq : patience.exactLongestSleep? = some longest
  /-- Among integers the longest sleep is the one that the program computes. -/
  computed : ∀ m, patience.delay = .int m →
    ∃ number, patience.longestSleep? = some number ∧ number.value? = some longest
  bounded : slept ≤ longest
  all_of_notFound : outcome.status = .notFound → slept = longest

section Account

variable {query : Query} {patience : Patience} {n : Int} {host after last : Host}
  {outcome : Outcome} {k : Nat} {farewell : List Call}

/-- The sleeps of a retirement: one delay after every search but the last. -/
theorem Account.sleeps (h : Account query patience n host outcome after k last farewell) :
    sleeps after.calls.toList =
      sleeps host.calls.toList ++ List.replicate (k - 1) patience.delay := by
  have hfarewell : Retirement.sleeps farewell = [] := by
    by_cases hstatus : outcome.status = .notFound
    · rw [(h.notFound hstatus).2.2.2]
      rfl
    · obtain ⟨-, -, target, process, -, -, -, -, -, hcalls, -⟩ := h.retired hstatus
      exact sleeps_farewell hcalls
  rw [h.calls, sleeps_append, sleeps_append, sleeps_append, sleeps_pauses, sleeps_searchCalls,
    hfarewell, List.append_nil, List.append_nil]

theorem Account.timed (h : Account query patience n host outcome after k last farewell)
    (valid : patience.check = .ok patience) (hn : patience.attempts = .int n) {d : ℚ}
    (hd : patience.delay.value? = some d) :
    Timed patience host outcome after k d ((k - 1) * d) ((n - 1) * d) := by
  have hlongest : patience.exactLongestSleep? = some ((n - 1) * d) := by
    rw [Patience.exactLongestSleep?, hn, hd]
    simp
  refine ⟨?_, rfl, hlongest, ?_, ?_, fun hstatus => ?_⟩
  · -- There was a search, so that the subtraction is the same among the rationals.
    have hk : ((k - 1 : Nat) : ℚ) = k - 1 := by
      have := h.positive
      push_cast [this]
      rfl
    rw [timeSlept, h.sleeps, List.map_append, List.sum_append, List.map_replicate, hd,
      List.sum_replicate, Option.getD_some, nsmul_eq_mul, hk]
    rfl
  · intro m hm
    obtain ⟨number, hnumber, hvalue⟩ := Patience.longestSleep?_of_int hn hm
    exact ⟨number, hnumber, hvalue.trans hlongest⟩
  · have hbound : (k : ℚ) ≤ n := by exact_mod_cast h.bounded
    exact mul_le_mul_of_nonneg_right (by linarith) (Patience.delay_nonneg valid hd)
  · have hall : (k : ℚ) = n := by exact_mod_cast (h.notFound hstatus).1
    rw [hall]

/-- What concludes a retirement accounts for it. -/
theorem Concludes.account {made : Nat} (hn : 1 ≤ n) (hmade : made < n.toNat)
    (earlier : Fruitless query patience.delay host made last)
    (h : Concludes query patience n.toNat made last outcome after) :
    ∃ farewell, Account query patience n host outcome after (made + 1) last farewell := by
  have hcalls := earlier.calls_afterSearch
  cases h with
  | exhausted nothing all left =>
    refine ⟨[], ⟨rfl, by omega, by omega, earlier, ?_, ⟨fun _ => ⟨last, ?_, nothing⟩, fun _ => rfl⟩,
      fun _ => ⟨by omega, rfl, rfl, rfl⟩, fun h => absurd rfl h⟩⟩
    · rw [left.view Host.calls, hcalls, List.append_nil]
      rfl
    · rw [← all]
      exact earlier
  | @retired target process _ chosen present caught left =>
    have hsomething := Handle.ne_nil_of_least? chosen
    have hstatus : (outcomeOf made target (found query last)
        (parting process patience.grace)).status ≠ .notFound := by
      unfold outcomeOf
      split <;> simp
    refine ⟨(parting process patience.grace).calls, ⟨rfl, by omega, by omega, earlier, ?_,
      ⟨fun h => absurd h hstatus, fun h => absurd h ?_⟩, fun h => absurd h hstatus, fun _ => ?_⟩⟩
    · rw [left.view Host.calls, parted_calls, hcalls]
      rfl
    · exact earlier.not_all_in_vain hsomething (by omega)
    · refine ⟨hsomething, rfl, target, process, rfl, Handle.least?_mem chosen,
        Handle.least?_le chosen, first?_pid present, present, parting_farewell process _, ?_⟩
      unfold outcomeOf
      cases (parting process patience.grace).fault <;> simp

end Account

/-- **Every outcome of a retirement can be accounted for**, down to the time slept. -/
theorem run_account (query : Query) (patience : Patience) (n : Int) (host after : Host)
    (outcome : Outcome) (valid : patience.check = .ok patience) (hn : patience.attempts = .int n)
    (returned : run query patience host = .ok outcome after) :
    ∃ k last farewell, Account query patience n host outcome after k last farewell ∧
      ∀ d : ℚ, patience.delay.value? = some d →
        ∃ slept longest, Timed patience host outcome after k d slept longest := by
  have hone := Patience.one_le_of_int valid hn
  have hsearches := patience.searches_of_int n hn
  obtain ⟨made, last, hmade, hfruitless, hends⟩ := run_course query patience host (by omega)
  rw [hsearches] at hmade hends
  obtain ⟨farewell, haccount⟩ := (hends.of_ok returned).account hone hmade hfruitless
  exact ⟨made + 1, last, farewell, haccount, fun d hd => ⟨_, _, haccount.timed valid hn hd⟩⟩

/-- Three attempts, two seconds apart, and a grace period. -/
def latePatience : Patience := { attempts := 3, delay := 2, grace := some 5 }

/-- A host on which the service comes up between the first search and the second, and does not end
when asked to. -/
def lateHost : Host where
  changes := [(2, { joining := [{ pid := 7, commandLine := some ["svc"], onTerm := .ignores }] })]
  clock := 0

theorem run_account_late :
    Ends (run sampleQuery latePatience) lateHost
      (fun outcome after => outcome.attempts = 2 ∧ timeSlept after.calls.toList = 2 ∧
        ∃ last farewell, Account sampleQuery latePatience 3 lateHost outcome after 2 last farewell)
      (fun _ _ => False) := by
  have hends : Ends (run sampleQuery latePatience) lateHost (fun outcome _ => outcome.attempts = 2)
      (fun _ _ => False) :=
    .of_returned? (fun (outcome : Outcome) _ => outcome.attempts) 2 (by decide +kernel)
  obtain ⟨outcome, after, hended, hattempts⟩ := hends.exists_ok
  rw [Ends, hended]
  obtain ⟨k, last, farewell, haccount, htime⟩ :=
    run_account sampleQuery latePatience 3 lateHost after outcome rfl rfl hended
  obtain rfl : k = 2 := by
    have hk := haccount.attempts
    omega
  obtain ⟨slept, longest, htimed⟩ := htime 2 (Number.value?_int 2)
  refine ⟨hattempts, ?_, last, farewell, haccount⟩
  rw [htimed.total, htimed.pauses]
  norm_num [timeSlept, sleeps, lateHost]

end Relaunch.Retirement
