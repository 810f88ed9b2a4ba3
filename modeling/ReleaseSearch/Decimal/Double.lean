/-!
# Binary floating point as exact numbers

A finite double is a mantissa times a power of two.  `Double.ofFloat` takes a `Float` apart, and
`nearest?` gives the double nearest to a quotient of natural numbers, a tie going to the even
mantissa, so that every conversion between texts, integers and doubles is one exact rounding.
-/

namespace ReleaseSearch.Decimal

/-- What a double is: a finite number `± mantissa * 2 ^ exponent`, an infinity, or not a number. -/
inductive Double where
  | finite (negative : Bool) (mantissa : Nat) (exponent : Int)
  | infinite (negative : Bool)
  | nan
  deriving DecidableEq, Repr

def Double.ofFloat (x : Float) : Double :=
  let bits := x.toBits.toNat
  let negative := bits / Nat.pow 2 63 == 1
  let biased : Nat := bits / Nat.pow 2 52 % 2048
  let fraction : Nat := bits % Nat.pow 2 52
  if biased = 2047 then
    if fraction = 0 then .infinite negative else .nan
  else if biased = 0 then .finite negative fraction (-1074)
  else .finite negative (Nat.pow 2 52 + fraction) ((biased : Int) - 1075)

/-- The integer nearest to `num / den`, a tie going to the even neighbour. -/
def roundQuotient (num den : Nat) : Nat :=
  let q := num / den
  let r := num % den
  if 2 * r > den || (2 * r == den && q % 2 == 1) then q + 1 else q

/-- `num / den` times `2 ^ shift`, as numerator and denominator. -/
def scale (num den : Nat) (shift : Int) : Nat × Nat :=
  if shift ≥ 0 then (num <<< shift.toNat, den) else (num, den <<< (-shift).toNat)

/-- The binary logarithm of a positive quotient, rounded down. -/
def floorLog2 (num den : Nat) : Int :=
  let guess : Int := (num.log2 : Int) - den.log2
  let scaled := scale num den (-guess)
  if scaled.1 ≥ scaled.2 then guess else guess - 1

/-- The bit pattern of the double nearest to `num / den`, unless it is beyond the largest. -/
def nearestBits? (num den : Nat) : Option Nat :=
  if num = 0 then some 0
  else
    let exponent := max (floorLog2 num den - 52) (-1074)
    let scaled := scale num den (-exponent)
    let q := roundQuotient scaled.1 scaled.2
    let bits :=
      if q < Nat.pow 2 52 then q
      else ((exponent + 1075).toNat) * Nat.pow 2 52 + (q - Nat.pow 2 52)
    if bits < 2047 * Nat.pow 2 52 then some bits else none

/-- The double nearest to `± num / den`, unless it is beyond the largest. -/
def nearest? (negative : Bool) (num den : Nat) : Option Float :=
  (nearestBits? num den).map fun bits =>
    Float.ofBits (UInt64.ofNat (if negative then bits + Nat.pow 2 63 else bits))

def infinity : Float := Float.ofBits 0x7ff0000000000000

def notANumber : Float := Float.ofBits 0x7ff8000000000000

/-- The double nearest to an integer, unless it is beyond the largest. -/
def ofInt? (n : Int) : Option Float := nearest? (n < 0) n.natAbs 1

/-- The double nearest to `num / den`, for integers, unless it is beyond the largest. -/
def ofQuotient? (num : Int) (den : Nat) : Option Float := nearest? (num < 0) num.natAbs den

/-- The absolute value of a finite double as numerator and denominator. -/
def magnitude (mantissa : Nat) (exponent : Int) : Nat × Nat := scale mantissa 1 exponent

/-- The largest integer not above a finite double. -/
def floor? (x : Float) : Option Int :=
  match Double.ofFloat x with
  | .finite negative mantissa exponent =>
    let (num, den) := magnitude mantissa exponent
    some (if negative then -(((num + den - 1) / den : Nat) : Int) else ((num / den : Nat) : Int))
  | _ => none

def truncate? (x : Float) : Option Int :=
  match Double.ofFloat x with
  | .finite negative mantissa exponent =>
    let (num, den) := magnitude mantissa exponent
    some (if negative then -((num / den : Nat) : Int) else ((num / den : Nat) : Int))
  | _ => none

/-- How an integer compares with a double; `none` when the double is not a number. -/
def compareInt? (n : Int) (x : Float) : Option Ordering :=
  match Double.ofFloat x with
  | .nan => none
  | .infinite negative => some (if negative then .gt else .lt)
  | .finite negative mantissa exponent =>
    let (num, den) := magnitude mantissa exponent
    let value : Int := if negative then -(num : Int) else num
    some (compare (n * den) value)

def isFinite (x : Float) : Bool :=
  match Double.ofFloat x with
  | .finite .. => true
  | _ => false

end ReleaseSearch.Decimal
