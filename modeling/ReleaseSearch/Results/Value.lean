import ReleaseSearch.Log.Basic
import ReleaseSearch.Decimal.Read
import ReleaseSearch.Text.Line
import ReleaseSearch.Time.Read

/-!
# Values of fields

What indexers write as a size, a number or a date is read generously.  What cannot be read is
zero or nothing, never a trouble.
-/

namespace ReleaseSearch.Results

open Text Decimal Time

/-- Where the entries about results come from. -/
def source : String := "scoutarr.services.result_parser"

/-! ## Whole numbers -/

/-- The digits of a text, whatever stands between them. -/
def digitsOf (cs : List Char) : List Char := cs.filter isDigit

/-- The number that the digits of a text make, unless there are none or too many of them. -/
def wholeNumber? (cs : List Char) : Option Nat :=
  let digits := digitsOf cs
  if digits.isEmpty ∨ digits.length > digitLimit then none
  else some (ofDigits (digits.filterMap digitValue?))

/-- The number that the digits of a text make, or zero. -/
def wholeNumber (s : String) : Nat := (wholeNumber? s.toList).getD 0

/-- The number that the digits of a text make, with an entry if there are too many of them. -/
def readInteger (s : String) : Logged Nat := do
  let digits := digitsOf s.toList
  if digits.length > digitLimit then
    Logged.note .debug source ("Unparsable integer: " ++ String.ofList (digits.take 40) ++ "...")
  return wholeNumber s

/-! ## Sizes -/

/-- A unit of size: the texts that show it and its number of bytes. -/
structure SizeUnit where
  labels : List String
  bytes : Nat

/-- The units of size, in the order in which they are looked for. -/
def sizeUnits : List SizeUnit :=
  [⟨["GB", "GiB"], Nat.pow 1024 3⟩, ⟨["MB", "MiB"], Nat.pow 1024 2⟩, ⟨["KB", "KiB"], 1024⟩,
    ⟨["TB", "TiB"], Nat.pow 1024 4⟩]

def sizeUnit? (s : String) : Option SizeUnit :=
  sizeUnits.find? fun unit => unit.labels.any (contains · s)

def numericPart (cs : List Char) : List Char := cs.filter fun c => isDigit c || c == '.'

/-- The number at the start of a text: digits, and a point if more digits follow it. -/
def leadingNumber (cs : List Char) : List Char :=
  let whole := cs.takeWhile isDigit
  match whole, cs.drop whole.length with
  | [], _ => []
  | whole, '.' :: rest =>
    let fraction := rest.takeWhile isDigit
    if fraction.isEmpty then whole else whole ++ '.' :: fraction
  | whole, _ => whole

/-- The number of bytes that a number of some unit makes, unless it is too large. -/
def bytesOf? (number : List Char) (unit : SizeUnit) : Option Nat := do
  let x ← readFloat? (String.ofList number)
  let n ← truncate? (x * Float.ofNat unit.bytes)
  return n.toNat

/-- The number of bytes that a text says, with an entry if it is too large, which shows how the text
begins. -/
def readSizeShown (start s : String) : Logged Nat :=
  if s = "" then pure 0
  else
    let value := strip s
    match sizeUnit? value with
    | none => readInteger value
    | some unit =>
      match leadingNumber (numericPart value.toList) with
      | [] => pure 0
      | number =>
        match bytesOf? number unit with
        | some n => pure n
        | none => do
          Logged.note .debug source ("Unparsable size: " ++ start)
          return 0

/-- The number of bytes that a text says. -/
def readSize (s : String) : Logged Nat := readSizeShown (quoted (take 40 (strip s))) s

/-- The number of bytes that a line says.  A half says nothing and is only shown. -/
def readLineSize (line : Line) : Logged Nat :=
  readSizeShown (line.strip.take 40).quoted line.softened

/-! ## Dates -/

/-- The moment that a text says: in the standard form, or in a more generous one.  A moment
without an offset is universal time. -/
def moment? (s : String) : Option Moment :=
  ((readStrict? s).or (readLenient? s)).map Moment.orUniversal

/-- The moment that a text says, with an entry if it says none, which shows the text. -/
def readDateShown (shown s : String) : Logged (Option Moment) :=
  if s = "" then pure none
  else
    match moment? (strip s) with
    | some m => pure (some m)
    | none => do
      Logged.note .debug source ("Unparsable date: " ++ shown)
      return none

def readDate (s : String) : Logged (Option Moment) := readDateShown (quoted (strip s)) s

/-- The moment that a line says.  A half can stand where a date and a time are joined, as any other
sign can. -/
def readLineDate (line : Line) : Logged (Option Moment) :=
  readDateShown line.strip.quoted line.softened

end ReleaseSearch.Results
