import ReleaseSearch.Text.Blank
import ReleaseSearch.Text.Digit
import ReleaseSearch.Text.Word
import ReleaseSearch.Text.Case

/-!
# Marks in a title

A mark is a row of places, each of which accepts some characters; a place may be optional, and an
edge asks for the end or the start of a word.  `Mark.occursIn` says whether a mark is somewhere in
a title.  Letters are compared without regard to case.
-/

namespace ReleaseSearch.Quality

open Text

inductive Place where
  /-- A character, in either case. -/
  | char (c : Char)
  | digit
  /-- One of some characters, in either case. -/
  | oneOf (cs : List Char)
  /-- A blank or one of some characters. -/
  | blankOr (cs : List Char)
  deriving DecidableEq, Repr

inductive Piece where
  | one (place : Place)
  | maybe (place : Place)
  /-- The start or the end of a word. -/
  | edge
  deriving DecidableEq, Repr

abbrev Mark := List Piece

/-- The characters other than its two ASCII forms that count as a letter. -/
def lookalikes : Char → List Char
  | 'i' => ['\u0130', '\u0131']
  | 'k' => ['\u212a']
  | 's' => ['\u017f']
  | _ => []

/-- Whether `x` is the character `c` in either case. -/
def isForm (c x : Char) : Bool := asciiLowerChar x == c || (lookalikes c).contains x

def Place.accepts : Place → Char → Bool
  | .char c, x => isForm c x
  | .digit, x => isDigit x
  | .oneOf cs, x => cs.any (isForm · x)
  | .blankOr cs, x => isBlank x || cs.any (isForm · x)

/-- Whether a word starts or ends between two neighbours. -/
def isEdge (before after : Option Char) : Bool := before.any isWord != after.any isWord

/-- Whether a mark is at the start of `cs`, which follows `before`. -/
def Mark.startsAt : Mark → Option Char → List Char → Bool
  | [], _, _ => true
  | .edge :: ps, before, cs => isEdge before cs.head? && startsAt ps before cs
  | .one place :: ps, _, c :: cs => place.accepts c && startsAt ps (some c) cs
  | .one _ :: _, _, [] => false
  | .maybe place :: ps, before, c :: cs =>
    (place.accepts c && startsAt ps (some c) cs) || startsAt ps before (c :: cs)
  | .maybe _ :: ps, before, [] => startsAt ps before []

/-- Whether a mark is somewhere in `cs`, which follows `before`. -/
def Mark.occursFrom (mark : Mark) : Option Char → List Char → Bool
  | before, [] => mark.startsAt before []
  | before, c :: cs => mark.startsAt before (c :: cs) || occursFrom mark (some c) cs

def Mark.occursIn (mark : Mark) (title : List Char) : Bool := mark.occursFrom none title

namespace Mark

/-! ## Building marks -/

def word (s : String) : Mark := s.toList.map fun c => .one (.char c)

/-- A hyphen, a point or a blank, or nothing. -/
def gap : Mark := [.maybe (.blankOr ['-', '.'])]

def tie : Mark := [.one (.oneOf ['-', '.'])]

/-- A hyphen or a point, or nothing. -/
def tieOrNothing : Mark := [.maybe (.oneOf ['-', '.'])]

def oneOf (s : String) : Mark := [.one (.oneOf s.toList)]

def whole (mark : Mark) : Mark := .edge :: mark ++ [.edge]

def start (mark : Mark) : Mark := .edge :: mark

end Mark

end ReleaseSearch.Quality
