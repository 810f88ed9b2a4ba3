import ReleaseSearch.Decimal.Double

/-!
# The text of a number

`shortest` finds the fewest decimal digits that read back as a given double, and of those the
ones nearest to it.  `floatText` writes them out: positional from `1e-4` up to `1e16`, with an
exponent of at least two digits beyond, and always with a point or an exponent.  `fixedText`
writes a given number of places.
-/

namespace ReleaseSearch.Decimal

/-- The decimal logarithm of a positive quotient, rounded down, searched upwards from `guess`
within `steps`. -/
def floorLog10From (num den : Nat) : Nat → Int → Int
  | 0, guess => guess
  | steps + 1, guess =>
    let next := guess + 1
    let above :=
      if next ≥ 0 then num ≥ den * Nat.pow 10 next.toNat else num * Nat.pow 10 (-next).toNat ≥ den
    if above then floorLog10From num den steps next else guess

/-- The decimal logarithm of a positive quotient, rounded down. -/
def floorLog10 (num den : Nat) : Int :=
  floorLog10From num den 4 (Int.fdiv (floorLog2 num den * 30103) 100000 - 1)

/-- A positive quotient divided by `10 ^ k`, as numerator and denominator. -/
def scale10 (num den : Nat) (k : Int) : Nat × Nat :=
  if k ≥ 0 then (num, den * Nat.pow 10 k.toNat) else (num * Nat.pow 10 (-k).toNat, den)

/-- The reals that round to a double, scaled to a common denominator: the double itself, the two
ends of the interval, and whether the ends belong to it. -/
structure Neighbourhood where
  value : Nat
  low : Nat
  high : Nat
  den : Nat
  closed : Bool

/-- The neighbourhood of the positive double `mantissa * 2 ^ exponent`. -/
def Neighbourhood.of (mantissa : Nat) (exponent : Int) : Neighbourhood :=
  let (unit, den) := scale 1 4 exponent
  let low :=
    if mantissa = Nat.pow 2 52 && exponent > -1074 then 4 * mantissa - 1 else 4 * mantissa - 2
  { value := 4 * mantissa * unit, low := low * unit, high := (4 * mantissa + 2) * unit
    den := den, closed := mantissa % 2 == 0 }

/-- Whether `digits * 10 ^ k` rounds to the double. -/
def Neighbourhood.holds (n : Neighbourhood) (digits : Nat) (k : Int) : Bool :=
  let point := if k ≥ 0 then digits * Nat.pow 10 k.toNat * n.den else digits * n.den
  let unit := if k ≥ 0 then 1 else Nat.pow 10 (-k).toNat
  let low := n.low * unit
  let high := n.high * unit
  if n.closed then low ≤ point && point ≤ high else low < point && point < high

/-- The point of the grid `10 ^ k` that rounds to the double, the nearer one if two do. -/
def Neighbourhood.onGrid? (n : Neighbourhood) (k : Int) : Option Nat :=
  let (num, den) := scale10 n.value n.den k
  let below := num / den
  let rest := num % den
  match n.holds below k, n.holds (below + 1) k with
  | true, false => some below
  | false, true => some (below + 1)
  | true, true =>
    if 2 * rest < den || (2 * rest == den && below % 2 == 0) then some below else some (below + 1)
  | false, false => none

/-- The first grid with at most `left + 1` steps to go, from coarse to fine, that has a point. -/
def Neighbourhood.firstGrid (n : Neighbourhood) : Nat → Int → Nat × Int
  | 0, k => ((n.onGrid? k).getD 0, k)
  | left + 1, k =>
    match n.onGrid? k with
    | some digits => (digits, k)
    | none => n.firstGrid left (k - 1)

/-- The fewest digits, and their decimal exponent, that read back as a positive double. -/
def shortest (mantissa : Nat) (exponent : Int) : Nat × Int :=
  let n := Neighbourhood.of mantissa exponent
  n.firstGrid 17 (floorLog10 n.value n.den)

def natDigits (n : Nat) : List Char := Nat.toDigits 10 n

/-- The digits without the zeros at the end, and how many there were. -/
def dropZeros (digits : List Char) : List Char × Nat :=
  let kept := (digits.reverse.dropWhile (· == '0')).reverse
  (kept, digits.length - kept.length)

/-- The text of the positive number `0.digits * 10 ^ point`. -/
def positional (digits : List Char) (point : Int) : List Char :=
  if point ≤ 0 then '0' :: '.' :: (List.replicate (-point).toNat '0' ++ digits)
  else
    let p := point.toNat
    if digits.length ≤ p then digits ++ List.replicate (p - digits.length) '0' ++ ['.', '0']
    else digits.take p ++ '.' :: digits.drop p

/-- The text of a decimal exponent: a sign and at least two digits. -/
def exponentText (e : Int) : List Char :=
  let digits := natDigits e.natAbs
  'e' :: (if e < 0 then '-' else '+') :: (if digits.length < 2 then '0' :: digits else digits)

def positiveText (mantissa : Nat) (exponent : Int) : List Char :=
  let (digits, k) := shortest mantissa exponent
  let (kept, zeros) := dropZeros (natDigits digits)
  let point : Int := kept.length + (k + zeros)
  if -4 < point ∧ point ≤ 16 then positional kept point
  else
    let mantissaText :=
      match kept with
      | [] => ['0']
      | [d] => [d]
      | d :: ds => d :: '.' :: ds
    mantissaText ++ exponentText (point - 1)

def floatText (x : Float) : String :=
  match Double.ofFloat x with
  | .nan => "nan"
  | .infinite negative => if negative then "-inf" else "inf"
  | .finite negative mantissa exponent =>
    let body := if mantissa = 0 then ['0', '.', '0'] else positiveText mantissa exponent
    String.ofList (if negative then '-' :: body else body)

/-- The text of `num / den` with `places` decimal places. -/
def fixedDigits (places num den : Nat) : List Char :=
  let scaled := natDigits (roundQuotient (num * Nat.pow 10 places) den)
  let padded := List.replicate (places + 1 - scaled.length) '0' ++ scaled
  let whole := padded.length - places
  if places = 0 then padded else padded.take whole ++ '.' :: padded.drop whole

/-- The text of a double with `places` decimal places. -/
def fixedText (places : Nat) (x : Float) : String :=
  match Double.ofFloat x with
  | .nan => "nan"
  | .infinite negative => if negative then "-inf" else "inf"
  | .finite negative mantissa exponent =>
    let (num, den) := magnitude mantissa exponent
    let body := fixedDigits places num den
    String.ofList (if negative then '-' :: body else body)

def intText (n : Int) : String :=
  String.ofList (if n < 0 then '-' :: natDigits n.natAbs else natDigits n.natAbs)

end ReleaseSearch.Decimal
