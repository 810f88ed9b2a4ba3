import ReleaseSearch.Decimal.Double

/-!
# Arithmetic for measures

Sizes, scores and rates are computed in doubles.  The computations themselves are written over a
`Scale`, the few operations that they need, so that they can also be read over exact fractions.
-/

namespace ReleaseSearch.Decimal

inductive FloorFault where
  | infinite
  | undefined
  deriving DecidableEq, Repr

class Scale (α : Type) extends Add α, Sub α, Mul α, Div α where
  /-- The value of a fraction. -/
  ratio : Nat → Nat → α
  /-- The value of a whole number, if it is within range. -/
  ofInt? : Int → Option α
  /-- Whether the first value is less than the second. -/
  less : α → α → Bool
  /-- Whether two values are equal. -/
  equal : α → α → Bool
  /-- Whether a value is zero. -/
  isZero : α → Bool
  /-- How a whole number compares with a value. -/
  compareInt? : Int → α → Option Ordering
  /-- The largest whole number that is not above a value. -/
  floor : α → Except FloorFault Int

namespace Scale

variable {α : Type} [Scale α]

def zero : α := ratio 0 1

def distance (x : α) : α := if less x zero then zero - x else x

def rounded (x : α) : Except FloorFault Int := floor (x + ratio 1 2)

/-- Whether the first value is not below the second. -/
def atLeast (x y : α) : Bool := less y x || equal x y

/-- The value of a whole number; one that is out of range counts as zero. -/
def ofInt (n : Int) : α := (ofInt? n).getD zero

/-- The smaller of two values, the first if neither is. -/
def least (x y : α) : α := if less y x then y else x

end Scale

instance : Scale Float where
  ratio num den := (ofQuotient? num den).getD infinity
  ofInt? := Decimal.ofInt?
  less x y := x < y
  equal x y := x == y
  isZero x := x == 0
  compareInt? := Decimal.compareInt?
  floor x :=
    match floor? x with
    | some n => .ok n
    | none => if x == x then .error .infinite else .error .undefined

instance : Scale Rat where
  ratio num den := (num : Rat) / (den : Rat)
  ofInt? n := some n
  less x y := x < y
  equal x y := x == y
  isZero x := x == 0
  compareInt? n x := some (if (n : Rat) < x then .lt else if (n : Rat) = x then .eq else .gt)
  floor x := .ok x.floor

end ReleaseSearch.Decimal
