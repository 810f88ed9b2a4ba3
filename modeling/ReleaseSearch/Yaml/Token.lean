import ReleaseSearch.Yaml.Text

/-!
# Tokens of a document

`Token.read` splits a document into tokens.  Changes of indentation become tokens that open and
close collections, and a text that turns out to be a key when a colon follows it gets its key
token put in front of it afterwards.
-/

namespace ReleaseSearch.Yaml

inductive Token where
  | version (major : Nat)
  | handle (name start : String)
  | directive
  | documentStart
  | documentEnd
  | sequenceStart
  | mappingStart
  | blockEnd
  | flowSequenceStart
  | flowSequenceEnd
  | flowMappingStart
  | flowMappingEnd
  | blockEntry
  | flowEntry
  | key
  | value
  | alias (name : String)
  | anchor (name : String)
  | tag (handle : Option String) (suffix : String)
  | scalar (plain : Bool) (text : String)
  deriving DecidableEq, Repr

/-- A place where a key may have started: the token there, whether it must be a key, and its
position. -/
structure PossibleKey where
  level : Nat
  token : Nat
  required : Bool
  index : Nat
  line : Nat
  column : Nat

structure Scan where
  cursor : Cursor
  tokens : Array Token := #[]
  level : Nat := 0
  indent : Int := -1
  outer : List Int := []
  keysAllowed : Bool := true
  keys : List PossibleKey := []

namespace Scan

def push (s : Scan) (t : Token) : Scan := { s with tokens := s.tokens.push t }

/-- Puts a token in front of the one with the given number. -/
def insert (s : Scan) (place : Nat) (t : Token) : Scan :=
  { s with tokens := (s.tokens.extract 0 place).push t ++ s.tokens.extract place s.tokens.size }

/-- Drops the possible keys that are on another line or too far back. -/
def dropStale (s : Scan) : Option Scan :=
  let stale (k : PossibleKey) : Bool :=
    k.line != s.cursor.line || s.cursor.index - k.index > 1024
  if s.keys.any fun k => stale k && k.required then none
  else some { s with keys := s.keys.filter fun k => !stale k }

/-- Drops the possible key of the current level. -/
def dropKey (s : Scan) : Option Scan :=
  if s.keys.any fun k => k.level == s.level && k.required then none
  else some { s with keys := s.keys.filter fun k => k.level != s.level }

def saveKey (s : Scan) : Option Scan :=
  if s.keysAllowed then do
    let s ← s.dropKey
    let required := s.level = 0 && s.indent == (s.cursor.column : Int)
    return { s with
      keys := ⟨s.level, s.tokens.size, required, s.cursor.index, s.cursor.line,
        s.cursor.column⟩ :: s.keys }
  else some s

/-- Closes the collections that are indented further than a column. -/
def unwind (column : Int) : List Int → Scan → Scan
  | [], s => s
  | outer :: rest, s =>
    if s.level = 0 && s.indent > column then
      unwind column rest
        { s with tokens := s.tokens.push .blockEnd, indent := outer, outer := rest }
    else s

/-- Opens a level of indentation, if it is deeper than the current one. -/
def deepen (s : Scan) (column : Nat) : Option Scan :=
  if s.indent < (column : Int) then
    some { s with outer := s.indent :: s.outer, indent := column }
  else none

/-- Adds a token for the next `n` characters. -/
def take (s : Scan) (n : Nat) (t : Token) : Scan :=
  { s with tokens := s.tokens.push t, cursor := s.cursor.forward n }

def allowKeys (s : Scan) (allowed : Bool) : Scan := { s with keysAllowed := allowed }

/-- Moves to the next token, over blanks, comments and line breaks. -/
def skipToToken : Nat → Scan → Scan
  | 0, s => s
  | fuel + 1, s =>
    let cursor := s.cursor.skipSpaces.skipComment
    match cursor.lineBreak? with
    | some (_, cursor) =>
      skipToToken fuel { s with cursor := cursor, keysAllowed := s.keysAllowed || s.level = 0 }
    | none => { s with cursor := cursor }

end Scan

/-! ## Directives, anchors and tags -/

def tagHandle? (cur : Cursor) : Option (String × Cursor) :=
  if !cur.sees '!' then none
  else
    let (name, after) := cur.next.takeWhile isNameChar
    if cur.next.sees ' ' then some ("!", cur.next)
    else if after.sees '!' then some (String.ofList ('!' :: name ++ ['!']), after.next)
    else none

/-- The bytes of escaped characters in a tag. -/
def uriEscapes : Nat → Cursor → Option (List UInt8 × Cursor)
  | 0, _ => none
  | fuel + 1, cur =>
    if cur.sees '%' then do
      let values ← (cur.next.rest.take 2).mapM Text.hexValue?
      match values with
      | [a, b] =>
        let (more, cur) ← uriEscapes fuel (cur.forward 3)
        return (UInt8.ofNat (16 * a + b) :: more, cur)
      | _ => none
    else some ([], cur)

def isUriChar (c : Char) : Bool :=
  c.isAlphanum || "-;/?:@&=+$,_.!~*'()[]".toList.contains c

def tagText : Nat → Cursor → Option (List Char × Cursor)
  | 0, _ => none
  | fuel + 1, cur =>
    if cur.sees '%' then do
      let (bytes, cur) ← uriEscapes (cur.rest.length + 1) cur
      let text ← String.fromUTF8? ⟨bytes.toArray⟩
      let (more, cur) ← tagText fuel cur
      return (text.toList ++ more, cur)
    else if cur.seesAny isUriChar then
      let (run, cur) := cur.takeWhile isUriChar
      (tagText fuel cur).map fun p => (run ++ p.1, p.2)
    else some ([], cur)

/-- Reads the text of a tag, which is not empty. -/
def tagText? (cur : Cursor) : Option (String × Cursor) :=
  match tagText (cur.rest.length + 1) cur with
  | some (c :: text, cur) => some (String.ofList (c :: text), cur)
  | _ => none

def tag? (cur : Cursor) : Option (Token × Cursor) := do
  let second := cur.peekAt 1
  let (token, cur) : Token × Cursor ←
    if second == some '<' then do
      let (text, cur) ← tagText? (cur.forward 2)
      if cur.sees '>' then some (Token.tag none text, cur.next) else none
    else if endOr isBlankOrBreak second then some (Token.tag none "!", cur.next)
    else
      let word := (cur.next.rest).takeWhile (!isSpaceOrBreak ·)
      if word.contains '!' then do
        let (handle, cur) ← tagHandle? cur
        let (text, cur) ← tagText? cur
        return (Token.tag (some handle) text, cur)
      else do
        let (text, cur) ← tagText? cur.next
        return (Token.tag (some "!") text, cur)
  if endOr isSpaceOrBreak cur.peek then return (token, cur) else none

/-- Reads the name of an anchor or an alias after its sign. -/
def anchorName? (cur : Cursor) : Option (String × Cursor) :=
  let (name, cur) := cur.takeWhile isNameChar
  let stops (c : Char) : Bool := isBlankOrBreak c || "?:,]\x7d%@`".toList.contains c
  if name.isEmpty || !endOr stops cur.peek then none else some (String.ofList name, cur)

def directive? (cur : Cursor) : Option (Token × Cursor) := do
  let (name, cur) := cur.takeWhile isNameChar
  if name.isEmpty || !endOr isSpaceOrBreak cur.peek then none
  let (token, cur) : Token × Cursor ←
    match String.ofList name with
    | "YAML" =>
      let (major, cur) := cur.skipSpaces.takeWhile Char.isDigit
      let (minor, after) := cur.next.takeWhile Char.isDigit
      if major.isEmpty || !cur.sees '.' || minor.isEmpty || !endOr isSpaceOrBreak after.peek then
        none
      else
        some (Token.version (major.foldl (fun n c => 10 * n + (c.toNat - 48)) 0), after)
    | "TAG" => do
      let (handle, cur) ← tagHandle? cur.skipSpaces
      if !cur.sees ' ' then none
      let (start, cur) ← tagText? cur.skipSpaces
      if endOr isSpaceOrBreak cur.peek then some (Token.handle handle start, cur) else none
    | _ => some (Token.directive, cur.skipWhile (!isBreak ·))
  let cur := cur.skipSpaces.skipComment
  if endOr isBreak cur.peek then return (token, cur.skipBreak) else none

/-! ## Tokens -/

namespace Scan

/-- Reads the mark that starts or ends a document. -/
def boundary (s : Scan) (t : Token) : Option Scan := do
  let s ← (unwind (-1) s.outer s).dropKey
  return (s.allowKeys false).take 3 t

/-- Reads the start of a collection in brackets. -/
def openFlow (s : Scan) (t : Token) : Option Scan := do
  let s ← s.saveKey
  return { s.take 1 t with level := s.level + 1, keysAllowed := true }

/-- Reads the end of a collection in brackets. -/
def closeFlow (s : Scan) (t : Token) : Option Scan := do
  let s ← s.dropKey
  if s.level = 0 then none
  else return { s.take 1 t with level := s.level - 1, keysAllowed := false }

/-- Opens a collection at a column unless it is open already or brackets are. -/
def openBlock (s : Scan) (column : Nat) (t : Token) : Scan :=
  if s.level = 0 then ((s.deepen column).map (·.push t)).getD s else s

/-- Reads the sign of a list item or of a key. -/
def entry (s : Scan) (start t : Token) (keysAfter : Bool) : Option Scan :=
  if s.level = 0 && !s.keysAllowed then none
  else do
    let s ← ((s.openBlock s.cursor.column start).allowKeys keysAfter).dropKey
    return s.take 1 t

def valueSign (s : Scan) : Option Scan :=
  match s.keys.find? (·.level == s.level) with
  | some k =>
    let s := { s with keys := s.keys.filter fun k => k.level != s.level }
    let s := s.insert k.token .key
    let s :=
      if s.level = 0 then
        ((s.deepen k.column).map (·.insert k.token .mappingStart)).getD s
      else s
    some ((s.allowKeys false).take 1 .value)
  | none => s.entry .mappingStart .value (s.level = 0)

/-- Reads a token that may be a key, by a function that answers it and the position after it. -/
def simple (s : Scan) (read : Cursor → Option (Token × Cursor)) : Option Scan := do
  let s ← s.saveKey
  let (t, cursor) ← read s.cursor
  return { s with tokens := s.tokens.push t, cursor := cursor, keysAllowed := false }

def block (s : Scan) (folded : Bool) : Option Scan := do
  let s ← s.dropKey
  let (text, cursor) ← blockText? folded s.indent s.cursor.next
  return { s with
    tokens := s.tokens.push (.scalar false (String.ofList text)), cursor := cursor
    keysAllowed := true }

def plain (s : Scan) : Option Scan := do
  let s ← s.saveKey
  let (text, fresh, cursor) :=
    plainText (s.level > 0) (s.indent + 1) (s.cursor.rest.length + 1) [] false s.cursor
  return { s with
    tokens := s.tokens.push (.scalar true (String.ofList text)), cursor := cursor
    keysAllowed := fresh }

/-- Whether `c` cannot start a plain text by itself. -/
def isIndicator (c : Char) : Bool := "-?:,[]\x7b\x7d#&*!|>'\"%@`".toList.contains c

/-- Reads the token that starts with the character `c`. -/
def token (s : Scan) (c : Char) : Option Scan :=
  let spaced := endOr isBlankOrBreak (s.cursor.peekAt 1)
  let inFlow := s.level > 0
  let atStart := s.cursor.column = 0
  if c == '%' && atStart then do
    let s ← (unwind (-1) s.outer s).dropKey
    let (t, cursor) ← directive? s.cursor.next
    return { s with tokens := s.tokens.push t, cursor := cursor, keysAllowed := false }
  else if atStart && s.cursor.seesMark '-' then s.boundary .documentStart
  else if atStart && s.cursor.seesMark '.' then s.boundary .documentEnd
  else if c == '[' then s.openFlow .flowSequenceStart
  else if c == '\x7b' then s.openFlow .flowMappingStart
  else if c == ']' then s.closeFlow .flowSequenceEnd
  else if c == '\x7d' then s.closeFlow .flowMappingEnd
  else if c == ',' then do
    let s ← (s.allowKeys true).dropKey
    return s.take 1 .flowEntry
  else if c == '-' && spaced then s.entry .sequenceStart .blockEntry true
  else if c == '?' && (inFlow || spaced) then s.entry .mappingStart .key (!inFlow)
  else if c == ':' && (inFlow || spaced) then s.valueSign
  else if c == '*' then s.simple fun cur => (anchorName? cur.next).map fun p => (.alias p.1, p.2)
  else if c == '&' then s.simple fun cur => (anchorName? cur.next).map fun p => (.anchor p.1, p.2)
  else if c == '!' then s.simple tag?
  else if c == '|' && !inFlow then s.block false
  else if c == '>' && !inFlow then s.block true
  else if c == '\'' || c == '"' then
    s.simple fun cur =>
      (quotedText (c == '"') (cur.rest.length + 1) cur.next).map fun p =>
        (.scalar false (String.ofList p.1), p.2)
  else if !(isIndicator c || isBlankOrBreak c) ||
      (!spaced && (c == '-' || (!inFlow && (c == '?' || c == ':')))) then s.plain
  else none

def run : Nat → Scan → Option Scan
  | 0, _ => none
  | fuel + 1, s => do
    let s := skipToToken (s.cursor.rest.length + 1) s
    let s ← s.dropStale
    let s := unwind s.cursor.column s.outer s
    match s.cursor.peek with
    | none => (unwind (-1) s.outer s).dropKey
    | some c => run fuel (← s.token c)

end Scan

/-- Whether `c` may occur in a document at all. -/
def isAllowed (c : Char) : Bool :=
  let n := c.toNat
  n == 9 || n == 10 || n == 13 || (0x20 ≤ n && n ≤ 0x7e) || n == 0x85 ||
    (0xa0 ≤ n && n ≤ 0xd7ff) || (0xe000 ≤ n && n ≤ 0xfffd) || 0x10000 ≤ n

/-- The tokens of a document; a byte order mark may come first. -/
def Token.read (cs : List Char) : Option (List Token) :=
  if !cs.all isAllowed then none
  else
    let start : Cursor := ⟨cs, 0, 0, 0⟩
    let start := if start.sees '\ufeff' then start.next else start
    (Scan.run (cs.length + 2) ⟨start, #[], 0, -1, [], true, []⟩).map (·.tokens.toList)

end ReleaseSearch.Yaml
