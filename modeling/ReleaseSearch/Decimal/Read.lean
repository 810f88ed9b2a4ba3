import ReleaseSearch.Decimal.Double
import ReleaseSearch.Text.Blank
import ReleaseSearch.Text.Digit

/-!
# Reading numbers

`readNat?` reads a run of decimal digits of any script.  `readFloat?` and `readInt?` read the
numerals a user may type: blank characters around the number are ignored, and single underscores
may stand between digits.  `readInt?` refuses more digits than `digitLimit`.
-/

namespace ReleaseSearch.Decimal

open ReleaseSearch.Text

/-- The most digits an integer numeral may have. -/
def digitLimit : Nat := 4300

/-- The double nearest to `± mantissa * 10 ^ exponent`; infinite when beyond the largest. -/
def ofDecimal (negative : Bool) (mantissa : Nat) (exponent : Int) : Float :=
  let order : Int := (Nat.toDigits 10 mantissa).length + exponent
  let overflow := if negative then -infinity else infinity
  if mantissa = 0 || order < -400 then (if negative then Float.ofBits 0x8000000000000000 else 0)
  else if order > 400 then overflow
  else
    let quotient := if exponent ≥ 0 then nearest? negative (mantissa * Nat.pow 10 exponent.toNat) 1
      else nearest? negative mantissa (Nat.pow 10 (-exponent).toNat)
    quotient.getD overflow

/-- Replaces decimal digits of every script by ASCII ones. -/
def plainDigits (cs : List Char) : List Char :=
  cs.map fun c =>
    match digitValue? c with
    | some d => Char.ofNat (48 + d)
    | none => c

/-- Removes the underscores, each of which has to stand between two digits. -/
def dropUnderscores? : Bool → List Char → Option (List Char)
  | _, [] => some []
  | afterDigit, c :: cs =>
    if c == '_' then
      match afterDigit, cs with
      | true, d :: _ => if isAsciiDigit d then dropUnderscores? false cs else none
      | _, _ => none
    else (dropUnderscores? (isAsciiDigit c) cs).map (c :: ·)

def digitsValue (cs : List Char) : Nat :=
  cs.foldl (fun n c => 10 * n + (c.toNat - 48)) 0

def takeSign : List Char → Bool × List Char
  | '-' :: cs => (true, cs)
  | '+' :: cs => (false, cs)
  | cs => (false, cs)

/-- An exponent part, which has to reach the end of the text. -/
def readExponent? : List Char → Option Int
  | [] => some 0
  | c :: cs =>
    if c == 'e' || c == 'E' then
      let (negative, ds) := takeSign cs
      if ds.isEmpty || !ds.all isAsciiDigit then none
      else some (if negative then -(digitsValue ds : Int) else digitsValue ds)
    else none

/-- Reads `digits`, `digits.`, `.digits` or `digits.digits` with an optional exponent. -/
def readUnsigned? (negative : Bool) (cs : List Char) : Option Float :=
  let whole := cs.takeWhile isAsciiDigit
  let (fraction, rest) :=
    match cs.dropWhile isAsciiDigit with
    | '.' :: more => (more.takeWhile isAsciiDigit, more.dropWhile isAsciiDigit)
    | more => ([], more)
  if whole.isEmpty && fraction.isEmpty then none
  else
    (readExponent? rest).map fun e =>
      ofDecimal negative (digitsValue (whole ++ fraction)) (e - fraction.length)

/-- Reads a number in ASCII without blanks or underscores, or one of the names of infinity and
of not-a-number. -/
def readPlainFloat? (cs : List Char) : Option Float :=
  let (negative, body) := takeSign cs
  let name := String.ofList (body.map Char.toLower)
  if name == "inf" || name == "infinity" then some (if negative then -infinity else infinity)
  else if name == "nan" then some notANumber
  else readUnsigned? negative body

def readFloat? (s : String) : Option Float :=
  (dropUnderscores? false (plainDigits (stripBy isNumberBlank s.toList))).bind readPlainFloat?

/-- Reads a run of decimal digits, all of them digits and not more than `digitLimit`. -/
def readNat? (cs : List Char) : Option Nat :=
  if cs.isEmpty || !cs.all isDigit || cs.length > digitLimit then none
  else some (ofDigits (cs.filterMap digitValue?))

def readInt? (s : String) : Option Int :=
  (dropUnderscores? false (plainDigits (stripBy isNumberBlank s.toList))).bind fun cs =>
    let (negative, ds) := takeSign cs
    (if ds.all isAsciiDigit then readNat? ds else none).map fun n =>
      if negative then -(n : Int) else n

end ReleaseSearch.Decimal
