import ReleaseSearch.Text.Blank
import ReleaseSearch.Text.Quoted
import ReleaseSearch.Text.Substring

/-!
# Lines

A page may refer to any number, also to one that belongs to no character but to half of a surrogate
pair.  So what a page says is a sequence of `Sign`s, and only without such halves is it a text.  A
`Line` is either of the two.

What can be done to a text letter by letter can be done to signs as well; it is written once, for
any kind of `Letter`, and `Line.mapLetters` does it to a line.
-/

namespace ReleaseSearch.Text

/-! ## Letters -/

/-- What characters are letters among others of. -/
class Letter (α : Type) where
  /-- The letter that a character is. -/
  ofChar : Char → α
  /-- The character that a letter is, if it is one. -/
  char? : α → Option Char
  /-- The code point of a letter. -/
  code : α → Nat

namespace Letter

variable {α : Type} [Letter α]

/-- Whether a letter is a character with a property; what is no character has none of them. -/
def isA (p : Char → Bool) (a : α) : Bool := (char? a).any p

def ofString (s : String) : List α := s.toList.map ofChar

instance : Letter Char where
  ofChar := id
  char? := some
  code := Char.toNat

end Letter

/-- A character or half of a surrogate pair, given by its distance from the first of the halves. -/
inductive Sign where
  | char (c : Char)
  | half (n : Fin 0x800)
  deriving DecidableEq, Repr

namespace Sign

def char? : Sign → Option Char
  | .char c => some c
  | .half _ => none

def code : Sign → Nat
  | .char c => c.toNat
  | .half n => 0xd800 + n

instance : Letter Sign where
  ofChar := .char
  char? := char?
  code := code

/-- The sign of a code point, which lies below 0x110000. -/
def ofCode? (n : Nat) : Option Sign :=
  if n.isValidChar then some (.char (Char.ofNat n))
  else if h : 0xd800 ≤ n ∧ n < 0xe000 then some (.half ⟨n - 0xd800, by omega⟩)
  else none

/-- The character that stands for a sign where only characters can stand. -/
def softened (sign : Sign) : Char := sign.char?.getD '\ufffd'

def quoted (quote : Char) : Sign → List Char
  | .char c => quoteChar quote c
  | .half n => '\\' :: 'u' :: hexDigits 4 (0xd800 + n)

end Sign

/-! ## Lines -/

/-- Signs that are no text, because there is a half among them. -/
structure Broken where
  signs : List Sign
  hasHalf : ∃ sign ∈ signs, sign.char? = none
  deriving DecidableEq

/-- A text, or signs that are none. -/
inductive Line where
  | whole (s : String)
  | broken (b : Broken)
  deriving DecidableEq

instance : Coe String Line := ⟨.whole⟩

namespace Line

def ofSigns (signs : List Sign) : Line :=
  if h : ∃ sign ∈ signs, sign.char? = none then .broken ⟨signs, h⟩
  else .whole (String.ofList (signs.map Sign.softened))

def signs : Line → List Sign
  | .whole s => Letter.ofString s
  | .broken b => b.signs

def whole? : Line → Option String
  | .whole s => some s
  | .broken _ => none

/-- A line with the replacement character in the place of every half. -/
def softened : Line → String
  | .whole s => s
  | .broken b => String.ofList (b.signs.map Sign.softened)

/-- Does to a line what can be done to letters of any kind. -/
def mapLetters (f : {α : Type} → [Letter α] → [DecidableEq α] → List α → List α) : Line → Line
  | .whole s => .whole (String.ofList (f s.toList))
  | .broken b => ofSigns (f b.signs)

def strip (line : Line) : Line := line.mapLetters (stripBy (Letter.isA isBlank))

def take (n : Nat) (line : Line) : Line := line.mapLetters (List.take n)

def quoted : Line → String
  | .whole s => Text.quoted s
  | .broken b =>
    let q := quoteFor (b.signs.filterMap Sign.char?)
    String.ofList (q :: b.signs.flatMap (Sign.quoted q) ++ [q])

end Line

end ReleaseSearch.Text
