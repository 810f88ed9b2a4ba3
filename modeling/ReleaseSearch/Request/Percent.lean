import ReleaseSearch.Text.Digit
import ReleaseSearch.Text.Utf8

/-!
# Percent encoding

A text is encoded character by character: some characters stand for themselves, and of all others
each byte of the UTF-8 form becomes `%` and two hexadecimal digits.  Which characters stand for
themselves depends on where the text goes.
-/

namespace ReleaseSearch.Percent

open Text

def hexDigit (n : Nat) : Char := if n < 10 then Char.ofNat (48 + n) else Char.ofNat (55 + n)

def encodeByte (b : UInt8) : List Char :=
  ['%', hexDigit (b.toNat / 16), hexDigit (b.toNat % 16)]

/-- A character, encoded unless it is safe. -/
def encodeChar (safe : Char → Bool) (c : Char) : List Char :=
  if safe c then [c] else (Utf8.encodeChar c).flatMap encodeByte

/-- A text, all but its safe characters encoded. -/
def encodeWith (safe : Char → Bool) (cs : List Char) : List Char := cs.flatMap (encodeChar safe)

def isAsciiLetter (c : Char) : Bool := ('a' ≤ c && c ≤ 'z') || ('A' ≤ c && c ≤ 'Z')

/-- Whether a character stands for itself everywhere. -/
def isUnreserved (c : Char) : Bool :=
  isAsciiLetter c || isAsciiDigit c || c == '-' || c == '_' || c == '.' || c == '~'

/-- Encodes a text so that it can stand anywhere in an address. -/
def encode (cs : List Char) : List Char := encodeWith isUnreserved cs

/-- The encoding of the parts of a text put together is that of the text. -/
theorem encodeWith_append (safe : Char → Bool) (cs ds : List Char) :
    encodeWith safe (cs ++ ds) = encodeWith safe cs ++ encodeWith safe ds :=
  List.flatMap_append

/-- The bytes that an encoded text stands for. -/
def decodeBytes : List Char → List UInt8
  | [] => []
  | '%' :: a :: b :: rest =>
    match hexValue? a, hexValue? b with
    | some m, some n => UInt8.ofNat (16 * m + n) :: decodeBytes rest
    | _, _ => 37 :: decodeBytes (a :: b :: rest)
  | c :: rest => Utf8.encodeChar c ++ decodeBytes rest

/-- The text that an encoded text stands for. -/
def decode (cs : List Char) : List Char := Utf8.decodeLossy (decodeBytes cs)

/-- Encodes the name or the value of a form field, where a blank is a plus sign. -/
def encodeField (s : String) : String :=
  String.ofList (s.toList.flatMap fun c => if c == ' ' then ['+'] else encodeChar isUnreserved c)

/-- Encodes a string so that it can stand anywhere in an address. -/
def encodeText (s : String) : String := String.ofList (encode s.toList)

end ReleaseSearch.Percent
