import ReleaseSearch.Html.Entity
import ReleaseSearch.Decimal.Read
import ReleaseSearch.Text.Charset
import ReleaseSearch.Text.Line

/-!
# Character references

A reference such as `&amp;`, `&#38;` or `&#x26;` stands for a character.  In the value of an
attribute `unescape` resolves them all at once; `byNumber` and `byName` resolve those that occur in
running text.  These are more forgiving: numbers below 256 may be bytes of a code page, and the
number of half of a surrogate pair stands for that half.
-/

namespace ReleaseSearch.Html

open ReleaseSearch.Text

/-- The characters that the numbers 128 to 159 stand for: those of the code page 1252, where it
has any. -/
def westernControls : List Char :=
  "€\x81‚ƒ„…†‡ˆ‰Š‹Œ\x8dŽ\x8f\x90‘’“”•–—˜™š›œ\x9džŸ".toList

/-- The numbers of that range that the code page 1252 does not use. -/
def isUnusedControl (n : Nat) : Bool :=
  n == 0x81 || n == 0x8d || n == 0x8f || n == 0x90 || n == 0x9d

/-- The numbers that stand for nothing in the value of an attribute. -/
def isSilent (n : Nat) : Bool :=
  (1 ≤ n && n ≤ 8) || n == 11 || (14 ≤ n && n ≤ 31) || n == 127 ||
    (0xfdd0 ≤ n && n ≤ 0xfdef) || n % 65536 ≥ 0xfffe

/-- What a number stands for in the value of an attribute. -/
def attributeChar (n : Nat) : List Char :=
  if n = 0 then ['\ufffd']
  else if 128 ≤ n ∧ n ≤ 159 then (westernControls[n - 128]?).toList
  else if !n.isValidChar then ['\ufffd']
  else if isSilent n then []
  else [Char.ofNat n]

/-- The longest named character that `name` starts with; the names tried have at least two
characters and need no semicolon. -/
def longestBare? (name : List Char) : Nat → Option (List Char)
  | 0 => none
  | 1 => none
  | length + 2 =>
    match entity? (name.take (length + 2)) with
    | some entity =>
      if entity.bare then some (entity.text ++ name.drop (length + 2))
      else longestBare? name (length + 1)
    | none => longestBare? name (length + 1)

/-- What a name stands for in the value of an attribute; `closed` tells that a semicolon follows
it. -/
def attributeName (name : List Char) (closed : Bool) : List Char :=
  let tail := if closed then [';'] else []
  let whole :=
    match entity? name with
    | some entity => if closed || entity.bare then some entity.text else none
    | none => none
  match whole with
  | some text => text
  | none =>
    let tries := if closed then name.length else name.length - 1
    match longestBare? name tries with
    | some text => text ++ tail
    | none => '&' :: (name ++ tail)

/-- Whether `c` may occur in a reference by name. -/
def isNameChar (c : Char) : Bool :=
  !(c == '\t' || c == '\n' || c == '\x0c' || c == ' ' || c == '<' || c == '&' || c == '#' ||
    c == ';')

/-- The number of characters that a run takes up, a semicolon after it included. -/
def closedLength (run rest : List Char) : Nat :=
  run.length + (if rest.head? == some ';' then 1 else 0)

/-- What the reference after an ampersand stands for, and how many characters it takes up; `none`
for an ampersand that starts no reference.  A decimal number may be too long to be read. -/
def attributeReference? : List Char → Except Unit (Option (List Char × Nat))
  | '#' :: cs =>
    let hex : Option (List Char) :=
      match cs with
      | 'x' :: ds => some (ds.takeWhile isHexDigit)
      | 'X' :: ds => some (ds.takeWhile isHexDigit)
      | _ => none
    match hex with
    | some (d :: ds) =>
      let digits := d :: ds
      .ok (some (attributeChar (hexValue digits),
        2 + closedLength digits (cs.drop (digits.length + 1))))
    | _ =>
      let digits := cs.takeWhile isAsciiDigit
      if digits.isEmpty then .ok none
      else if digits.length > Decimal.digitLimit then .error ()
      else .ok (some (attributeChar (Decimal.digitsValue digits),
        1 + closedLength digits (cs.drop digits.length)))
  | cs =>
    let name := (cs.takeWhile isNameChar).take 32
    if name.isEmpty then .ok none
    else
      let closed := (cs.drop name.length).head? == some ';'
      .ok (some (attributeName name closed, name.length + (if closed then 1 else 0)))

/-- Resolves the references of an attribute's value after passing over `skip` characters. -/
def unescapeFrom : Nat → List Char → Except Unit (List Char)
  | _, [] => .ok []
  | skip + 1, _ :: cs => unescapeFrom skip cs
  | 0, c :: cs =>
    if c = '&' then
      match attributeReference? cs with
      | .error () => .error ()
      | .ok none => (unescapeFrom 0 cs).map (c :: ·)
      | .ok (some (text, length)) => (unescapeFrom length cs).map (text ++ ·)
    else (unescapeFrom 0 cs).map (c :: ·)

/-- Resolves the references of an attribute's value. -/
def unescape (cs : List Char) : Except Unit (List Char) := unescapeFrom 0 cs

def byName (name : List Char) : List Char :=
  match entity? name with
  | some entity => entity.text
  | none => '&' :: name

/-- What a number stands for in running text of a document that was read in `charset`: below 256
it is a byte of the code page 1252 or else of that character set, if one of them uses it. -/
def byNumber (charset : Option Charset) (n : Nat) : List Sign :=
  let byte : Option (List Char) :=
    if n < 256 then
      if 128 ≤ n ∧ n ≤ 159 then
        if isUnusedControl n then charset.bind (·.decode? [UInt8.ofNat n])
        else some ((westernControls[n - 128]?).toList)
      else some [Char.ofNat n]
    else none
  match byte with
  | some (c :: cs) => (c :: cs).map .char
  | _ => [(Sign.ofCode? n).getD (.char '\ufffd')]

end ReleaseSearch.Html
