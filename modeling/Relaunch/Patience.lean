/-
  Patience: how long a stale instance is searched for, and how gently it is ended.
-/
import Relaunch.Number.Basic

namespace Relaunch

/-- The bounds of the search for a stale instance, and of its end. -/
structure Patience where
  /-- Bound on the searches: there is another one as long as fewer than this have been made. -/
  attempts : Number := 5
  /-- Seconds between two searches. -/
  delay : Number := .float 2.0
  /-- Seconds that an instance gets to end when asked; without it, it is killed at once. -/
  grace : Option Number := none
  deriving BEq, Repr, Inhabited

namespace Patience

/-- Why bounds are refused. -/
inductive Refusal
  | tooFewAttempts (attempts : Number)
  | negativeDelay (delay : Number)
  | negativeGrace (grace : Number)
  deriving Repr

/-- The wording of a refusal. -/
def Refusal.message : Refusal → String
  | tooFewAttempts attempts => "max_attempts must be at least 1, got " ++ attempts.text
  | negativeDelay delay => "attempt_delay must not be negative, got " ++ delay.text
  | negativeGrace grace => "graceful_timeout must not be negative, got " ++ grace.text

/-- The bounds, if they make sense; otherwise the first thing that is wrong with them. -/
def check (patience : Patience) : Except Refusal Patience := do
  if patience.attempts.less 1 then throw (.tooFewAttempts patience.attempts)
  if patience.delay.isNegative then throw (.negativeDelay patience.delay)
  match patience.grace with
  | some grace => if grace.isNegative then throw (.negativeGrace grace)
  | none => pure ()
  return patience

/-- The longest time that a search sleeps, when it finds nothing; `none` when the number of attempts
is too large to meet the delay. -/
def longestSleep? (patience : Patience) : Option Number := do
  (← patience.attempts.sub? 1).mul? patience.delay

/-- Searches after which a search without a bound is cut short. -/
def endless : Nat := 10000000

/-- How many searches there are, if none of them finds anything. -/
def searches (patience : Patience) : Nat :=
  match patience.attempts.exact with
  | .dyadic significand exponent => (Number.dyadicCeiling significand exponent).toNat
  | .infinite negative => if negative then 0 else endless
  | .undefined => 0

/-- An integer bound is the number of searches. -/
theorem searches_of_int (patience : Patience) (n : Int) (h : patience.attempts = .int n) :
    patience.searches = n.toNat := by
  simp [searches, h, Number.exact, Number.Exact.ofInt, Number.dyadicCeiling, Number.twoTo]

end Patience

end Relaunch
