/-!
# Reading position

A `Cursor` walks over the characters of a document and counts lines and columns.  The readers of
blanks and line breaks that all kinds of tokens share are here too.
-/

namespace ReleaseSearch.Yaml

/-- A position in a document: what is left to read, and where that begins. -/
structure Cursor where
  rest : List Char
  index : Nat := 0
  line : Nat := 0
  column : Nat := 0

def isBreak (c : Char) : Bool :=
  c == '\n' || c == '\r' || c == '\x85' || c == '\u2028' || c == '\u2029'

/-- Whether nothing or a character of the given kind comes next. -/
def endOr (p : Char → Bool) (c : Option Char) : Bool := (c.map p).getD true

def isSpaceOrBreak (c : Char) : Bool := c == ' ' || isBreak c

/-- Whether `c` is a space, a tab or ends a line. -/
def isBlankOrBreak (c : Char) : Bool := c == '\t' || isSpaceOrBreak c

/-- Whether `c` may occur in the name of an anchor or a directive. -/
def isNameChar (c : Char) : Bool := c.isAlphanum || c == '-' || c == '_'

namespace Cursor

def peek (cur : Cursor) : Option Char := cur.rest.head?

def peekAt (cur : Cursor) (n : Nat) : Option Char := cur.rest[n]?

def sees (cur : Cursor) (c : Char) : Bool := cur.peek == some c

/-- Whether a character of the given kind comes next. -/
def seesAny (cur : Cursor) (p : Char → Bool) : Bool := (cur.peek.map p).getD false

def next (cur : Cursor) : Cursor :=
  match cur.rest with
  | [] => cur
  | c :: rest =>
    if c == '\n' || c == '\x85' || c == '\u2028' || c == '\u2029' ||
        (c == '\r' && rest.head? != some '\n') then
      ⟨rest, cur.index + 1, cur.line + 1, 0⟩
    else if c == '\ufeff' then ⟨rest, cur.index + 1, cur.line, cur.column⟩
    else ⟨rest, cur.index + 1, cur.line, cur.column + 1⟩

def forward : Nat → Cursor → Cursor
  | 0, cur => cur
  | n + 1, cur => forward n cur.next

/-- The run of characters of a kind that comes next, and the position after it. -/
def takeWhile (p : Char → Bool) (cur : Cursor) : List Char × Cursor :=
  let run := cur.rest.takeWhile p
  (run, cur.forward run.length)

/-- The position after a run of characters of a kind. -/
def skipWhile (p : Char → Bool) (cur : Cursor) : Cursor := (cur.takeWhile p).2

/-- The position after the spaces that come next. -/
def skipSpaces (cur : Cursor) : Cursor := cur.skipWhile (· == ' ')

/-- The position after the comment that comes next, if there is one. -/
def skipComment (cur : Cursor) : Cursor :=
  if cur.sees '#' then cur.skipWhile (!isBreak ·) else cur

/-- The line break that comes next, if there is one, in its plain form. -/
def lineBreak? (cur : Cursor) : Option (Char × Cursor) :=
  match cur.rest with
  | '\r' :: '\n' :: _ => some ('\n', cur.forward 2)
  | c :: _ =>
    if c == '\u2028' || c == '\u2029' then some (c, cur.next)
    else if isBreak c then some ('\n', cur.next)
    else none
  | [] => none

/-- The position after the line break that comes next, if there is one. -/
def skipBreak (cur : Cursor) : Cursor := (cur.lineBreak?.map (·.2)).getD cur

/-- Whether three times `c` and then a blank come next. -/
def seesMark (cur : Cursor) (c : Char) : Bool :=
  cur.rest.take 3 == [c, c, c] && endOr isBlankOrBreak (cur.peekAt 3)

/-- Whether the mark that starts or ends a document comes next. -/
def seesBoundary (cur : Cursor) : Bool := cur.seesMark '-' || cur.seesMark '.'

end Cursor

end ReleaseSearch.Yaml
