import ReleaseSearch.Decimal.Read
import ReleaseSearch.Http.Punycode
import ReleaseSearch.Request.Percent
import ReleaseSearch.Text.Case
import ReleaseSearch.Text.Substring
import ReleaseSearch.Text.Word

/-!
# Hosts

The host of an address is a number of four parts, a number of eight parts in brackets, or a name.
A name is written in lower case and in ASCII.
-/

namespace ReleaseSearch.Http.Host

open Text Decimal

/-! ## Numbers -/

/-- A part of a number of four parts: no leading zeros, and at most 255. -/
def isOctet (cs : List Char) : Bool :=
  !cs.isEmpty && cs.all isAsciiDigit && cs.length ≤ 3 && (cs.length == 1 || cs.head? != some '0')
    && (digitsValue cs ≤ 255)

/-- Whether a text is a number of four parts. -/
def isQuad (cs : List Char) : Bool :=
  let parts := splitOn '.' cs
  parts.length == 4 && parts.all isOctet

/-- Whether a text begins with digits and goes on with so many runs of digits, each after one
character of any kind. -/
def hasRuns : Nat → List Char → Bool
  | 0, cs => cs.isEmpty
  | runs + 1, cs =>
    let count := (cs.takeWhile isAsciiDigit).length
    (List.range count).any fun i =>
      match runs, cs.drop (i + 1) with
      | 0, rest => rest.isEmpty
      | runs + 1, _ :: rest => hasRuns (runs + 1) rest
      | _ + 1, [] => false

/-- Whether a host looks like a number of four parts, and so has to be one. -/
def looksLikeQuad (cs : List Char) : Bool := hasRuns 4 cs

/-- A part of a number of eight parts. -/
def isHextet (cs : List Char) : Bool := !cs.isEmpty && cs.all isHexDigit && cs.length ≤ 4

/-- The parts of a number of eight parts; a number of four parts at the end stands for two. -/
def hextets? (cs : List Char) : Option (List (List Char)) :=
  let parts := splitOn ':' cs
  if parts.length < 3 then none
  else
    match parts.getLast? with
    | some last =>
      if last.contains '.' then
        if isQuad last then some (parts.dropLast ++ [['0'], ['0']]) else none
      else some parts
    | none => none

/-- Whether a text is a number of eight parts, of which one run of zeros may be left out. -/
def isOctuple (cs : List Char) : Bool :=
  match hextets? cs with
  | none => false
  | some parts =>
    let inner := (parts.drop 1).dropLast
    let gaps := inner.countP (·.isEmpty)
    if parts.length > 9 || gaps > 1 then false
    else if gaps = 0 then parts.length == 8 && parts.all isHextet
    else
      let before := 1 + (inner.takeWhile (!·.isEmpty)).length
      let high := parts.take before
      let low := parts.drop (before + 1)
      let part (side : List (List Char)) : Option (List (List Char)) :=
        if side == [[]] then some [] else if side.all isHextet then some side else none
      match part high, part low with
      | some high, some low => high.length + low.length < 8
      | _, _ => false

/-- Whether a text is a number of eight parts, perhaps with the name of a zone. -/
def isScopedOctuple (cs : List Char) : Bool :=
  match cut? '%' cs with
  | none => isOctuple cs
  | some (number, zone) => isOctuple number && !zone.isEmpty && !zone.contains '%'

/-! ## Names -/

/-- Whether a character may stand for itself in a name. -/
def isNameSafe (c : Char) : Bool :=
  Percent.isUnreserved c || "!$&'()*+,;=\"`\x7b\x7d%|\\".toList.contains c

/-- Compatibility characters, which a name may not hold. -/
def isCompatibility (c : Char) : Bool :=
  let n := c.toNat
  [0xaa, 0xb2, 0xb3, 0xb5, 0xb9, 0xba, 0xbc, 0xbd, 0xbe].contains n || (0xfb00 ≤ n && n ≤ 0xfb4f)
    || (0xff00 ≤ n && n ≤ 0xffef) || (0x2070 ≤ n && n ≤ 0x218f) || (0x2460 ≤ n && n ≤ 0x24ff)

def isLabelChar (c : Char) : Bool :=
  if c.toNat < 128 then isAsciiDigit c || ('a' ≤ c && c ≤ 'z') || c == '-'
  else isWord c && lowerChar c == c && !isCompatibility c

/-- The written form of a label, if it may stand in a name. -/
def label? (cs : List Char) : Option (List Char) :=
  let hyphens := cs.head? == some '-' || cs.getLast? == some '-'
    || (cs.drop 2).take 2 == ['-', '-']
  if cs.isEmpty || hyphens || !cs.all isLabelChar then none
  else
    let written := if cs.all (·.toNat < 128) then cs else "xn--".toList ++ Punycode.encode cs
    if written.length > 63 then none else some written

def isDot (c : Char) : Bool := c == '.' || c == '\u3002' || c == '\uff0e' || c == '\uff61'

/-- The written form of a name with characters beyond ASCII. -/
def name? (cs : List Char) : Option (List Char) :=
  let labels := splitOn '.' (cs.map fun c => if isDot c then '.' else c)
  let (labels, ending) :=
    if labels.getLast? == some [] then (labels.dropLast, ['.']) else (labels, [])
  if labels.isEmpty then none
  else do
    let written ← labels.mapM label?
    let name := List.intercalate ['.'] written ++ ending
    if name.length > 253 + ending.length then none else some name

/-- The plain form of a host; `none` if it is not a host. -/
def read? (cs : List Char) : Option (List Char) :=
  if cs.isEmpty then some []
  else if looksLikeQuad cs then if isQuad cs then some cs else none
  else if cs.head? == some '[' && cs.getLast? == some ']' && cs.length ≥ 2 then
    let number := (cs.drop 1).dropLast
    if isScopedOctuple number then some number else none
  else if cs.all (·.toNat < 128) then
    some (Percent.encodeWith isNameSafe (cs.map asciiLowerChar))
  else name? (lower (String.ofList cs)).toList

end ReleaseSearch.Http.Host
