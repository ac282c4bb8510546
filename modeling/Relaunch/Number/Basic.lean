/-
  Numbers: integers and doubles side by side.

  Counts are integers, durations may be either.  The two kinds are kept apart, because they print
  differently and because integers are exact however large, but they are compared by exact value:
  an integer is never rounded to be compared with a double.  Arithmetic stays among the integers
  when both sides are integers; otherwise both sides are taken to doubles first, which fails for an
  integer that is too large.
-/
import Relaunch.Number.Shortest

namespace Relaunch

/-- A number as an operator may give it. -/
inductive Number
  | int (value : Int)
  | float (value : Float)
  deriving BEq, Repr, Inhabited

namespace Number

instance : OfNat Number n := ⟨.int n⟩

/-- The value that a number stands for. -/
def exact : Number → Exact
  | .int n => .ofInt n
  | .float x => .ofFloat x

/-! ## Order -/

/-- Is `a` less than `b`?  False when either is undefined. -/
def less (a b : Number) : Bool := a.exact.compare? b.exact == some .lt

/-- Is `a` less than or equal to `b`?  False when either is undefined. -/
def atMost (a b : Number) : Bool :=
  match a.exact.compare? b.exact with
  | some .lt | some .eq => true
  | _ => false

/-- Is `a` negative? -/
def isNegative (a : Number) : Bool := a.less 0

/-! ## Arithmetic -/

/-- The double nearest to an integer, `none` when the integer is too large for one. -/
def floatOfInt? (n : Int) : Option Float :=
  if tooLargeForDouble n.natAbs then none else some (nearest (n < 0) n.natAbs 1)

/-- A number as a double, `none` when it is too large for one. -/
def toFloat? : Number → Option Float
  | .int n => floatOfInt? n
  | .float x => some x

/-- Apply an operation on integers to two integers, and one on doubles otherwise. -/
def combine (onInts : Int → Int → Int) (onFloats : Float → Float → Float) :
    Number → Number → Option Number
  | .int a, .int b => some (.int (onInts a b))
  | a, b => return .float (onFloats (← a.toFloat?) (← b.toFloat?))

/-- The sum, `none` when an integer is too large to meet a double. -/
def add? : Number → Number → Option Number := combine (· + ·) (· + ·)

/-- The difference, `none` when an integer is too large to meet a double. -/
def sub? : Number → Number → Option Number := combine (· - ·) (· - ·)

/-- The product, `none` when an integer is too large to meet a double. -/
def mul? : Number → Number → Option Number := combine (· * ·) (· * ·)

/-! ## Text -/

/-- A number as it is printed. -/
def text : Number → String
  | .int n => toString n
  | .float x => floatText x

end Number

end Relaunch
