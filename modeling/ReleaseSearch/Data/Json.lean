import ReleaseSearch.Data.Basic
import ReleaseSearch.Decimal.Read
import ReleaseSearch.Text.Charset
import ReleaseSearch.Text.Substring

/-!
# JSON

`Json.read` reads a document.  Besides the standard's values it takes `NaN` and `Infinity`, the last
value of a repeated key counts, and a number may be limited in its digits.  The texts of data hold no
halves of surrogate pairs: an escape for one alone is read as the replacement character.
-/

namespace ReleaseSearch

open Text Decimal

namespace Json

def isBlank (c : Char) : Bool := c == ' ' || c == '\t' || c == '\n' || c == '\r'

def skip (cs : List Char) : List Char := cs.dropWhile isBlank

def unit? : List Char → Option (Nat × List Char)
  | a :: b :: c :: d :: rest => do
    let upper := (← hexValue? a) * 16 + (← hexValue? b)
    let n := (upper * 16 + (← hexValue? c)) * 16 + (← hexValue? d)
    return (n, rest)
  | _ => none

/-- The character of an escape by number, which two units may form together. -/
def escaped? (cs : List Char) : Option (Char × List Char) := do
  let (n, rest) ← unit? cs
  if 0xd800 ≤ n ∧ n < 0xdc00 then
    match rest with
    | '\\' :: 'u' :: more =>
      match unit? more with
      | some (m, rest') =>
        if 0xdc00 ≤ m ∧ m < 0xe000 then
          return (Char.ofNat (0x10000 + (n - 0xd800) * 1024 + (m - 0xdc00)), rest')
        else return ('\ufffd', rest)
      | none => none
    | _ => return ('\ufffd', rest)
  else if n.isValidChar then return (Char.ofNat n, rest)
  else return ('\ufffd', rest)

/-- Reads the rest of a string after its opening quote; `read` holds what has been read,
backwards. -/
def string? : Nat → List Char → List Char → Option (String × List Char)
  | 0, _, _ => none
  | fuel + 1, read, cs =>
    match cs with
    | [] => none
    | '"' :: rest => some (String.ofList read.reverse, rest)
    | '\\' :: c :: rest =>
      match c with
      | '"' | '\\' | '/' => string? fuel (c :: read) rest
      | 'b' => string? fuel ('\x08' :: read) rest
      | 'f' => string? fuel ('\x0c' :: read) rest
      | 'n' => string? fuel ('\n' :: read) rest
      | 'r' => string? fuel ('\r' :: read) rest
      | 't' => string? fuel ('\t' :: read) rest
      | 'u' => (escaped? rest).bind fun found => string? fuel (found.1 :: read) found.2
      | _ => none
    | c :: rest => if c.toNat < 32 || c == '\\' then none else string? fuel (c :: read) rest

/-- The digits after a point or an exponent sign, if there is one. -/
def fractionLength (cs : List Char) : Nat :=
  match cs with
  | '.' :: rest =>
    let ds := rest.takeWhile isAsciiDigit
    if ds.isEmpty then 0 else ds.length + 1
  | _ => 0

def exponentLength (cs : List Char) : Nat :=
  match cs with
  | e :: rest =>
    if e == 'e' || e == 'E' then
      let sign :=
        match rest with
        | s :: _ => if s == '+' || s == '-' then 1 else 0
        | [] => 0
      let ds := (rest.drop sign).takeWhile isAsciiDigit
      if ds.isEmpty then 0 else 1 + sign + ds.length
    else 0
  | [] => 0

/-- Reads a number; with `limited`, an integer has a greatest number of digits. -/
def number? (limited : Bool) (cs : List Char) : Option (Data × List Char) :=
  let (negative, body) : Bool × List Char :=
    match cs with
    | '-' :: rest => (true, rest)
    | _ => (false, cs)
  let whole :=
    match body with
    | '0' :: _ => ['0']
    | _ => body.takeWhile isAsciiDigit
  if whole.isEmpty then none
  else
    let rest := body.drop whole.length
    let fraction := fractionLength rest
    let exponent := exponentLength (rest.drop fraction)
    if fraction + exponent = 0 then
      if limited && whole.length > digitLimit then none
      else
        let n : Int := digitsValue whole
        some (.int (if negative then -n else n), rest)
    else
      let length := (if negative then 1 else 0) + whole.length + fraction + exponent
      (readFloat? (String.ofList (cs.take length))).map fun x => (.float x, cs.drop length)

/-- Reads one of the words of the format, or a number. -/
def word? (limited : Bool) (cs : List Char) : Option (Data × List Char) :=
  let words : List (String × Data) :=
    [("null", .null), ("true", .bool true), ("false", .bool false), ("NaN", .float notANumber),
      ("Infinity", .float infinity), ("-Infinity", .float (-infinity))]
  match words.findSome? fun w => (dropStart? w.1.toList cs).map fun rest => (w.2, rest) with
  | some found => some found
  | none => number? limited cs

mutual

def value? (limited : Bool) : Nat → List Char → Option (Data × List Char)
  | 0, _ => none
  | fuel + 1, cs =>
    match cs with
    | '"' :: rest =>
      (string? (rest.length + 1) [] rest).map fun found => (.text found.1, found.2)
    | '[' :: rest =>
      match skip rest with
      | ']' :: rest => some (.list [], rest)
      | rest => (items? limited fuel rest).map fun found => (.list found.1, found.2)
    | '\x7b' :: rest =>
      match skip rest with
      | '\x7d' :: rest => some (.map [], rest)
      | rest => (members? limited fuel rest).map fun found => (Data.ofEntries found.1, found.2)
    | _ => word? limited cs

def items? (limited : Bool) : Nat → List Char → Option (List Data × List Char)
  | 0, _ => none
  | fuel + 1, cs => do
    let (item, rest) ← value? limited fuel cs
    match skip rest with
    | ']' :: rest => return ([item], rest)
    | ',' :: rest =>
      let (more, rest) ← items? limited fuel (skip rest)
      return (item :: more, rest)
    | _ => none

/-- Reads the members of an object and its end. -/
def members? (limited : Bool) : Nat → List Char → Option (Entries × List Char)
  | 0, _ => none
  | fuel + 1, cs =>
    match cs with
    | '"' :: rest => do
      let (key, rest) ← string? (rest.length + 1) [] rest
      match skip rest with
      | ':' :: rest =>
        let (value, rest) ← value? limited fuel (skip rest)
        match skip rest with
        | '\x7d' :: rest => return ([(.text key, value)], rest)
        | ',' :: rest =>
          let (more, rest) ← members? limited fuel (skip rest)
          return ((.text key, value) :: more, rest)
        | _ => none
      | _ => none
    | _ => none

end

/-- Reads a document: one value between blanks. -/
def read (limited : Bool) (cs : List Char) : Option Data := do
  let (found, rest) ← value? limited (2 * cs.length + 2) (skip cs)
  if (skip rest).isEmpty then some found else none

/-- The encoding of a document given as bytes, by its mark or by the places of its zero bytes. -/
def charset (bs : List UInt8) : Charset :=
  if [0, 0, 0xfe, 0xff].isPrefixOf bs || [0xff, 0xfe, 0, 0].isPrefixOf bs then .utf32 none
  else if [0xfe, 0xff].isPrefixOf bs || [0xff, 0xfe].isPrefixOf bs then .utf16 none
  else if [0xef, 0xbb, 0xbf].isPrefixOf bs then .utf8 true
  else
    match bs with
    | a :: b :: c :: d :: _ =>
      if a == 0 then (if b == 0 then .utf32 (some true) else .utf16 (some true))
      else if b == 0 then
        (if c == 0 && d == 0 then .utf32 (some false) else .utf16 (some false))
      else .utf8 false
    | [a, b] =>
      if a == 0 then .utf16 (some true) else if b == 0 then .utf16 (some false) else .utf8 false
    | _ => .utf8 false

/-- The text of a document given as bytes.  A surrogate that stands alone does not make them
malformed. -/
def decode? (bs : List UInt8) : Option (List Char) :=
  if (charset bs).admits bs then some ((charset bs).decodeLossy bs) else none

def readBytes (bs : List UInt8) : Option Data := (decode? bs).bind (read true)

/-! ## Writing -/

def unitText (n : Nat) : List Char := '\\' :: 'u' :: hexDigits 4 n

/-- The form of a character in a string, which is ASCII alone. -/
def charText (c : Char) : List Char :=
  let n := c.toNat
  if c == '"' then ['\\', '"']
  else if c == '\\' then ['\\', '\\']
  else if c == '\n' then ['\\', 'n']
  else if c == '\r' then ['\\', 'r']
  else if c == '\t' then ['\\', 't']
  else if c == '\x0c' then ['\\', 'f']
  else if c == '\x08' then ['\\', 'b']
  else if 32 ≤ n && n < 127 then [c]
  else if n < 0x10000 then unitText n
  else unitText (0xd800 + (n - 0x10000) / 1024) ++ unitText (0xdc00 + (n - 0x10000) % 1024)

def stringText (s : String) : String :=
  String.ofList ('"' :: s.toList.flatMap charText ++ ['"'])

def floatForm (x : Float) : String :=
  if x.isNaN then "NaN" else if x.isInf then (if x > 0 then "Infinity" else "-Infinity")
  else floatText x

mutual

/-- The text of a value; what the format does not know is written as the text of its display. -/
def text : Data → String
  | .null => "null"
  | .bool b => if b then "true" else "false"
  | .int n => intText n
  | .float x => floatForm x
  | .text s => stringText s
  | .list items => "[" ++ ", ".intercalate (textAll items) ++ "]"
  | .set items => "[" ++ ", ".intercalate (textAll items) ++ "]"
  | .map entries => "\x7b" ++ ", ".intercalate (textEntries entries) ++ "\x7d"
  | .bytes bs => stringText (quotedBytes bs)
  | .date d => stringText d.text
  | .moment m => stringText m.text

def textAll : List Data → List String
  | [] => []
  | item :: rest => text item :: textAll rest

/-- The texts of the entries of an object; a key that is no text is written as the text of its
value. -/
def textEntries : List (Data × Data) → List String
  | [] => []
  | (key, value) :: rest =>
    let name :=
      match key with
      | .text s => s
      | _ => text key
    (stringText name ++ ": " ++ text value) :: textEntries rest

end

end Json

end ReleaseSearch
