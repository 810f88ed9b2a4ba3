import ReleaseSearch.Decimal.Shortest
import ReleaseSearch.Decimal.Double

/-!
# Numbers that keep their kind

A `Number` is a whole number of any size or a double.  Arithmetic on two whole numbers is exact
and gives a whole number; with a double it gives a double.
-/

namespace ReleaseSearch.Decimal

inductive Number where
  | whole (n : Int)
  | real (x : Float)
  deriving Inhabited

namespace Number

/-- The text of a number; a double always has a point or an exponent. -/
def text : Number → String
  | .whole n => intText n
  | .real x => floatText x

/-- The nearest double, unless a whole number is beyond the largest. -/
def toFloat? : Number → Option Float
  | .whole n => ofInt? n
  | .real x => some x

/-- The exact value of a number; an infinity has none, and neither has what is not a number. -/
def fraction? : Number → Option Rat
  | .whole n => some n
  | .real x =>
    match Double.ofFloat x with
    | .finite negative mantissa exponent =>
      let (num, den) := magnitude mantissa exponent
      let value : Rat := (num : Rat) / (den : Rat)
      some (if negative then -value else value)
    | _ => none

def isZero : Number → Bool
  | .whole n => n == 0
  | .real x => x == 0

/-- How two numbers compare by value; `none` if one is not a number. -/
def compare? : Number → Number → Option Ordering
  | .whole m, .whole n => some (compare m n)
  | .whole m, .real y => compareInt? m y
  | .real x, .whole n => (compareInt? n x).map Ordering.swap
  | .real x, .real y =>
    if x < y then some .lt else if x == y then some .eq else if x > y then some .gt else none

def less (a b : Number) : Bool := a.compare? b == some .lt

/-- The smaller of two numbers, the first if neither is. -/
def least (a b : Number) : Number := if b.less a then b else a

/-- The product of two numbers, unless a whole number in it is beyond the largest double. -/
def mul? : Number → Number → Option Number
  | .whole m, .whole n => some (.whole (m * n))
  | a, b => do return .real ((← a.toFloat?) * (← b.toFloat?))

/-- The power of a number, unless it is beyond the largest double. -/
def pow? (a : Number) (n : Nat) : Option Number :=
  match a with
  | .whole m => some (.whole (Int.pow m n))
  | .real x =>
    let y := Float.pow x n.toFloat
    if isFinite x && !isFinite y && y == y then none else some (.real y)

end Number

end ReleaseSearch.Decimal
