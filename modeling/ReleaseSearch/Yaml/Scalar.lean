import ReleaseSearch.Data.Basic
import ReleaseSearch.Decimal.Read
import ReleaseSearch.Pattern.Search
import ReleaseSearch.Text.Substring
import ReleaseSearch.Text.Case

/-!
# Scalars

A plain text without a tag may be the written form of a number, a date or a truth value;
`kindOf` decides which.  `Scalar.read` reads the value of a text of a given kind.
-/

namespace ReleaseSearch.Yaml

open ReleaseSearch.Text ReleaseSearch.Decimal ReleaseSearch.Time

/-- Why a text of a known kind has no value. -/
inductive Fault where
  /-- The document or the value has the wrong form. -/
  | malformed
  /-- A number without any digit. -/
  | noDigits
  /-- A word that is no truth value. -/
  | unknownWord
  /-- A text that is no date at all. -/
  | noDate
  deriving DecidableEq, Repr

/-! ## Forms -/

def boolForm : Option Pattern.Program :=
  Pattern.Program.fixed?
    "(?:yes|Yes|YES|no|No|NO|true|True|TRUE|false|False|FALSE|on|On|ON|off|Off|OFF)$"

def floatForm : Option Pattern.Program :=
  Pattern.Program.fixed?
    ("(?:[-+]?(?:[0-9][0-9_]*)\\.[0-9_]*(?:[eE][-+][0-9]+)?" ++
      "|\\.[0-9][0-9_]*(?:[eE][-+][0-9]+)?" ++
      "|[-+]?[0-9][0-9_]*(?::[0-5]?[0-9])+\\.[0-9_]*" ++
      "|[-+]?\\.(?:inf|Inf|INF)|\\.(?:nan|NaN|NAN))$")

def intForm : Option Pattern.Program :=
  Pattern.Program.fixed?
    ("(?:[-+]?0b[0-1_]+|[-+]?0[0-7_]+|[-+]?(?:0|[1-9][0-9_]*)|[-+]?0x[0-9a-fA-F_]+" ++
      "|[-+]?[1-9][0-9_]*(?::[0-5]?[0-9])+)$")

def timeForm : Option Pattern.Program :=
  Pattern.Program.fixed?
    ("(?:[0-9][0-9][0-9][0-9]-[0-9][0-9]-[0-9][0-9]" ++
      "|[0-9][0-9][0-9][0-9]-[0-9][0-9]?-[0-9][0-9]?(?:[Tt]|[ \\t]+)[0-9][0-9]?" ++
      ":[0-9][0-9]:[0-9][0-9](?:\\.[0-9]*)?(?:[ \\t]*(?:Z|[-+][0-9][0-9]?(?::[0-9][0-9])?))?)$")

/-- What the names of the standard kinds start with. -/
def standard : String := "tag:yaml.org,2002:"

def kindOf (text : String) : String :=
  let cs := text.toList
  let kind :=
    match cs with
    | [] => "null"
    | c :: _ =>
      if "yYnNtTfFoO".toList.contains c && Pattern.startsAt boolForm cs then "bool"
      else if "-+0123456789.".toList.contains c && Pattern.startsAt floatForm cs then "float"
      else if "-+0123456789".toList.contains c && Pattern.startsAt intForm cs then "int"
      else if text == "<<" then "merge"
      else if ["~", "null", "Null", "NULL"].contains text then "null"
      else if c.isDigit && Pattern.startsAt timeForm cs then "timestamp"
      else if text == "=" then "value"
      else "str"
  standard ++ kind

/-! ## Values -/

def boolValue (text : String) : Except Fault Data :=
  match lower text with
  | "yes" | "true" | "on" => .ok (.bool true)
  | "no" | "false" | "off" => .ok (.bool false)
  | _ => .error .unknownWord

/-- Splits off a sign; answers whether it is negative. -/
def splitSign (cs : List Char) : Bool × List Char :=
  match cs with
  | '-' :: rest => (true, rest)
  | '+' :: rest => (false, rest)
  | _ => (false, cs)

/-- The number that digits of a base denote, if they are such digits; an optional sign and
surrounding blanks are allowed as in any other number. -/
def digitsOf? (base : Nat) (cs : List Char) : Option Int :=
  let (negative, body) := splitSign (stripBy isBlank cs)
  let values := body.mapM fun c => do
    let v ←
      if c.isDigit then some (c.toNat - 48)
      else if 'a' ≤ c ∧ c ≤ 'f' then some (c.toNat - 87)
      else if 'A' ≤ c ∧ c ≤ 'F' then some (c.toNat - 55)
      else none
    if v < base then some v else none
  match values with
  | some (v :: vs) =>
    let n : Nat := (v :: vs).foldl (fun n v => base * n + v) 0
    some (if negative then -(n : Int) else n)
  | _ => none

/-- Adds up parts in base 60, the last of them being units. -/
def sexagesimal (parts : List Int) : Int := parts.foldl (fun n part => 60 * n + part) 0

def intValue (text : String) : Except Fault Data :=
  let cs := text.toList.filter (· != '_')
  let (negative, body) := splitSign cs
  let value : Option Int :=
    match body with
    | ['0'] => some 0
    | '0' :: 'b' :: digits => digitsOf? 2 digits
    | '0' :: 'x' :: digits => digitsOf? 16 digits
    | '0' :: _ => digitsOf? 8 body
    | _ =>
      if body.contains ':' then
        ((splitOn ':' body).mapM fun part => readInt? (String.ofList part)).map sexagesimal
      else readInt? (String.ofList body)
  if body.isEmpty then .error .noDigits
  else
    match value with
    | some n => .ok (.int (if negative then -n else n))
    | none => .error .malformed

/-- Adds up parts in base 60, from the last one on. -/
def sexagesimalFloat (parts : List Float) : Float :=
  (parts.reverse.foldl
    (fun (acc : Float × Float) part => (acc.1 + part * acc.2, acc.2 * 60)) (0, 1)).1

def floatValue (text : String) : Except Fault Data :=
  let cs := (lower (String.ofList (text.toList.filter (· != '_')))).toList
  let (negative, body) := splitSign cs
  let signed (x : Float) : Float := if negative then -1 * x else x
  let word := String.ofList body
  if body.isEmpty then .error .noDigits
  else if word == ".inf" then .ok (.float (signed infinity))
  else if word == ".nan" then .ok (.float notANumber)
  else if body.contains ':' then
    match (splitOn ':' body).mapM fun part => readFloat? (String.ofList part) with
    | some parts => .ok (.float (signed (sexagesimalFloat parts)))
    | none => .error .malformed
  else
    match readFloat? word with
    | some x => .ok (.float (signed x))
    | none => .error .malformed

/-- The number of one or two digits at the start of `cs`, and the rest. -/
def shortNumber? (least : Nat) (cs : List Char) : Option (Nat × List Char) :=
  let ds := (cs.take 2).takeWhile Char.isDigit
  if ds.length < least || ds.isEmpty then none
  else some (digitsValue ds, cs.drop ds.length)

def after? (c : Char) : List Char → Option (List Char)
  | d :: rest => if d = c then some rest else none
  | [] => none

/-- The offset at the end of a moment, and whether there is one. -/
def offset? (cs : List Char) : Option (Option Int) :=
  match cs.dropWhile fun c => c == ' ' || c == '\t' with
  | [] => if cs.isEmpty then some none else none
  | ['Z'] => some (some 0)
  | sign :: rest =>
    if sign == '+' || sign == '-' then do
      let (hours, rest) ← shortNumber? 1 rest
      let minutes ←
        match rest with
        | [] => some 0
        | _ => do
          let (minutes, rest) ← shortNumber? 2 (← after? ':' rest)
          if rest.isEmpty then some minutes else none
      let total : Int := (hours * 3600 + minutes * 60) * 1000000
      return some (if sign == '-' then -total else total)
    else none

/-- The parts of a date or moment, if the text has its form. -/
def timeParts? (cs : List Char) : Option (Nat × Nat × Nat × Option (List Nat × Option Int)) := do
  let year := cs.take 4
  if year.length < 4 || !year.all Char.isDigit then none
  else
    let (month, rest) ← shortNumber? 1 (← after? '-' (cs.drop 4))
    let (day, rest) ← shortNumber? 1 (← after? '-' rest)
    match rest with
    | [] => return (digitsValue year, month, day, none)
    | c :: more =>
      let clock ←
        if c == 'T' || c == 't' then some more
        else if c == ' ' || c == '\t' then some (more.dropWhile fun c => c == ' ' || c == '\t')
        else none
      let (hour, rest) ← shortNumber? 1 clock
      let (minute, rest) ← shortNumber? 2 (← after? ':' rest)
      let (second, rest) ← shortNumber? 2 (← after? ':' rest)
      let digits :=
        match rest with
        | '.' :: rest => rest.takeWhile Char.isDigit
        | _ => []
      let rest :=
        match rest with
        | '.' :: rest => rest.drop digits.length
        | _ => rest
      let micro := digitsValue ((digits.take 6) ++ List.replicate (6 - digits.length) '0')
      let offset ← offset? rest
      return (digitsValue year, month, day, some ([hour, minute, second, micro], offset))

def timeValue (text : String) : Except Fault Data :=
  match timeParts? text.toList with
  | none => .error .noDate
  | some (year, month, day, clock) =>
    let value : Option Data := do
      let date ← Date.of? year month day
      match clock with
      | none => return .date date
      | some ([hour, minute, second, micro], offset) =>
        return .moment (← Moment.of? date hour minute second micro offset)
      | some _ => none
    match value with
    | some found => .ok found
    | none => .error .malformed

def base64Value? (c : Char) : Option Nat :=
  if 'A' ≤ c ∧ c ≤ 'Z' then some (c.toNat - 65)
  else if 'a' ≤ c ∧ c ≤ 'z' then some (c.toNat - 71)
  else if '0' ≤ c ∧ c ≤ '9' then some (c.toNat + 4)
  else if c == '+' then some 62
  else if c == '/' then some 63
  else none

/-- The bytes of groups of four characters in base 64. -/
def base64Bytes : List Nat → List UInt8
  | a :: b :: c :: d :: rest =>
    let n := ((a * 64 + b) * 64 + c) * 64 + d
    UInt8.ofNat (n / 65536) :: UInt8.ofNat (n / 256) :: UInt8.ofNat n :: base64Bytes rest
  | [a, b, c] =>
    let n := (a * 64 + b) * 64 + c
    [UInt8.ofNat (n / 1024), UInt8.ofNat (n / 4)]
  | [a, b] => [UInt8.ofNat ((a * 64 + b) / 16)]
  | _ => []

/-- The value of bytes in base 64; other characters are passed over. -/
def binaryValue (text : String) : Except Fault Data :=
  let cs := text.toList
  let body := cs.takeWhile (· != '=')
  let values := body.filterMap base64Value?
  let signs := ((cs.drop body.length).filter (· == '=')).length
  if cs.any (fun c => c.toNat ≥ 128) then .error .malformed
  else if values.length % 4 = 0 || (values.length % 4 = 2 && signs ≥ 2) ||
      (values.length % 4 = 3 && signs ≥ 1) then
    .ok (.bytes (base64Bytes values))
  else .error .malformed

def scalarValue (kind text : String) : Except Fault Data :=
  match (dropStart? standard.toList kind.toList).map String.ofList with
  | some "null" => .ok .null
  | some "bool" => boolValue text
  | some "int" => intValue text
  | some "float" => floatValue text
  | some "binary" => binaryValue text
  | some "timestamp" => timeValue text
  | some "str" => .ok (.text text)
  | _ => .error .malformed

end ReleaseSearch.Yaml
