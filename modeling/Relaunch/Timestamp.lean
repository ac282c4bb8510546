/-
  Dates with a time of day, in the ISO 8601 form.

  `Timestamp.text` prints the one form with dashes and colons.  The fraction of a second is shown only
  where it is not zero, and the distance from universal time only where it is known.
-/

namespace Relaunch

/-- A moment on the calendar. -/
structure Timestamp where
  year : Nat
  month : Nat
  day : Nat
  hour : Nat := 0
  minute : Nat := 0
  second : Nat := 0
  microsecond : Nat := 0
  /-- Microseconds ahead of universal time, where it is known. -/
  ahead : Option Int := none
  deriving DecidableEq, Repr, Inhabited

namespace Timestamp

/-- Microseconds in a second. -/
def microsPerSecond : Nat := 1000000

/-- `n` in at least `width` digits. -/
def padded (width n : Nat) : String :=
  let digits := toString n
  "".pushn '0' (width - digits.length) ++ digits

/-- A fraction of a second, shown only where it is not zero. -/
def fractionText (micros : Nat) : String :=
  if micros = 0 then "" else "." ++ padded 6 micros

/-- A distance from universal time; its seconds only where they or the fraction are not zero. -/
def offsetText (ahead : Int) : String :=
  let micros := ahead.natAbs
  let seconds := micros / microsPerSecond
  let fine := micros % microsPerSecond
  (if ahead < 0 then "-" else "+") ++ padded 2 (seconds / 3600) ++ ":" ++ padded 2 (seconds / 60 % 60)
    ++ (if seconds % 60 = 0 ∧ fine = 0 then "" else ":" ++ padded 2 (seconds % 60) ++ fractionText fine)

/-- The date of a moment. -/
def dateText (t : Timestamp) : String :=
  padded 4 t.year ++ "-" ++ padded 2 t.month ++ "-" ++ padded 2 t.day

/-- A moment as it is printed. -/
def text (t : Timestamp) : String :=
  t.dateText ++ "T" ++ padded 2 t.hour ++ ":" ++ padded 2 t.minute ++ ":" ++ padded 2 t.second
    ++ fractionText t.microsecond ++ (t.ahead.map offsetText).getD ""

example : text ⟨2024, 1, 2, 3, 4, 5, 678901, none⟩ = "2024-01-02T03:04:05.678901" := by rfl
example : text ⟨2024, 1, 2, 3, 4, 0, 0, some (-5400000000)⟩ = "2024-01-02T03:04:00-01:30" := by rfl

end Timestamp

end Relaunch
