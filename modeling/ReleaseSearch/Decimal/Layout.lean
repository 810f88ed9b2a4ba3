import ReleaseSearch.Decimal.Number

/-!
# Numbers in columns

How a number is laid out: with how many digits, in which notation, with which sign, and filled up to
which width.
-/

namespace ReleaseSearch.Decimal

structure Layout where
  /-- Whether a short text stands at the left. -/
  isLeft : Bool := false
  hasPlus : Bool := false
  hasBlank : Bool := false
  /-- Whether the base of a whole number is shown, and zeros at the end of a fraction stay. -/
  isFull : Bool := false
  hasZeros : Bool := false
  width : Nat := 0
  precision : Option Nat := none

namespace Layout

def fill (l : Layout) (cs : List Char) : List Char :=
  let blanks := List.replicate (l.width - cs.length) ' '
  if l.isLeft then cs ++ blanks else blanks ++ cs

/-- Puts together the sign, the mark of the base and the digits of a number, filled up to the
width. -/
def number (l : Layout) (isNegative : Bool) (mark digits : List Char) : List Char :=
  let sign :=
    if isNegative then ['-'] else if l.hasPlus then ['+'] else if l.hasBlank then [' '] else []
  let head := sign ++ mark
  if l.hasZeros && !l.isLeft then
    head ++ List.replicate (l.width - head.length - digits.length) '0' ++ digits
  else l.fill (head ++ digits)

def whole (l : Layout) (base : Nat) (mark : List Char) (n : Int) : List Char :=
  let digits := Nat.toDigits base n.natAbs
  let zeros := List.replicate (l.precision.getD 0 - digits.length) '0'
  l.number (n < 0) (if l.isFull then mark else []) (zeros ++ digits)

/-- The digits of the positive number `num / den`, `count` of them, and the power of ten of the
first one. -/
def leadingDigits (count num den : Nat) : List Char × Int :=
  let e := floorLog10 num den
  let (n, d) := scale10 num den (e - (count - 1 : Nat))
  let digits := natDigits (roundQuotient n d)
  -- Rounding up may give one digit more.
  if digits.length > count then (digits.take count, e + 1) else (digits, e)

/-- Digits with a point after the first one and a power of ten. -/
def scientific (isFull : Bool) (digits : List Char) (e : Int) : List Char :=
  let mantissa :=
    match digits with
    | [] => []
    | [d] => if isFull then [d, '.'] else [d]
    | d :: ds => d :: '.' :: ds
  mantissa ++ exponentText e

/-- The text of a positive number with so many places, with a power of ten. -/
def scientificText (isFull : Bool) (places num den : Nat) : List Char :=
  if num = 0 then scientific isFull (List.replicate (places + 1) '0') 0
  else
    let (digits, e) := leadingDigits (places + 1) num den
    scientific isFull digits e

/-- The text of a positive number with so many digits, with a power of ten if it is very large or
very small. -/
def generalText (isFull : Bool) (digits num den : Nat) : List Char :=
  let count := max digits 1
  let (ds, e) :=
    if num = 0 then (List.replicate count '0', 0) else leadingDigits count num den
  let kept (cs : List Char) : List Char := if isFull then cs else (dropZeros cs).1
  if e < -4 ∨ e ≥ count then
    match ds with
    | d :: rest => scientific isFull (d :: kept rest) e
    | [] => []
  else if e < 0 then '0' :: '.' :: List.replicate (-e - 1).toNat '0' ++ kept ds
  else
    let whole := ds.take (e.toNat + 1)
    let rest := kept (ds.drop (e.toNat + 1))
    if rest.isEmpty && !isFull then whole else whole ++ '.' :: rest

inductive RealForm where
  | fixed
  | scientific
  | general

def real (l : Layout) (form : RealForm) (x : Float) : List Char :=
  match Double.ofFloat x with
  | .nan => l.number false [] "nan".toList
  | .infinite negative => l.number negative [] "inf".toList
  | .finite negative mantissa exponent =>
    let (num, den) := magnitude mantissa exponent
    let places := l.precision.getD 6
    let body :=
      match form with
      | .fixed =>
        fixedDigits places num den ++ (if l.isFull && places = 0 then ['.'] else [])
      | .scientific => scientificText l.isFull places num den
      | .general => generalText l.isFull places num den
    l.number negative [] body

end Layout

end ReleaseSearch.Decimal
