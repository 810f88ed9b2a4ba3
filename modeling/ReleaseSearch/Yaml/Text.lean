import ReleaseSearch.Text.Digit
import ReleaseSearch.Yaml.Cursor

/-!
# Written texts

The three ways to write a text: plain, in quotes, and as a block of indented lines.  In each, a
single line break between two lines counts as a space.
-/

namespace ReleaseSearch.Yaml

/-- The characters that fold into the space between two lines: the break itself unless it is a
plain one, and the empty lines after it. -/
def foldBreak (first : Char) (others : List Char) : List Char :=
  if first != '\n' then first :: others
  else if others.isEmpty then [' ']
  else others

/-! ## Plain text -/

/-- Reads spaces and empty lines; answers the breaks, and whether a mark of a document ends
them. -/
def plainBreaks : Nat → Cursor → List Char × Bool × Cursor
  | 0, cur => ([], false, cur)
  | fuel + 1, cur =>
    if cur.sees ' ' then plainBreaks fuel cur.next
    else
      match cur.lineBreak? with
      | none => ([], false, cur)
      | some (c, cur) =>
        if cur.seesBoundary then ([c], true, cur)
        else
          let (more, stopped, cur) := plainBreaks fuel cur
          (c :: more, stopped, cur)

/-- Reads what separates two parts of a plain text: the characters that stand for it, whether a
line ended, and the position after it. -/
def plainSpaces (cur : Cursor) : List Char × Bool × Cursor :=
  let (spaces, cur) := cur.takeWhile (· == ' ')
  match cur.lineBreak? with
  | none => (spaces, false, cur)
  | some (c, cur) =>
    if cur.seesBoundary then ([], true, cur)
    else
      let (others, stopped, cur) := plainBreaks (cur.rest.length + 1) cur
      (if stopped then [] else foldBreak c others, true, cur)

/-- The length of the part of a plain text on one line. -/
def plainLength (inFlow : Bool) : List Char → Nat
  | [] => 0
  | c :: rest =>
    if isBlankOrBreak c then 0
    else if c == ':' &&
        endOr (fun d => isBlankOrBreak d ||
          (inFlow && (d == ',' || d == '[' || d == ']' || d == '\x7b' || d == '\x7d')))
          rest.head? then 0
    else if inFlow &&
        (c == ',' || c == '?' || c == '[' || c == ']' || c == '\x7b' || c == '\x7d') then 0
    else 1 + plainLength inFlow rest

/-- Reads a plain text whose lines are indented by at least `indent` columns.  Answers the text,
whether it ended at the start of a line, and the position after it. -/
def plainText (inFlow : Bool) (indent : Int) : Nat → List Char → Bool → Cursor →
    List Char × Bool × Cursor
  | 0, _, fresh, cur => ([], fresh, cur)
  | fuel + 1, spaces, fresh, cur =>
    let length := if cur.sees '#' then 0 else plainLength inFlow cur.rest
    if length = 0 then ([], fresh, cur)
    else
      let part := spaces ++ cur.rest.take length
      let (spaces, broke, cur) := plainSpaces (cur.forward length)
      if spaces.isEmpty || cur.sees '#' || (!inFlow && (cur.column : Int) < indent) then
        (part, broke, cur)
      else
        let (more, fresh, cur) := plainText inFlow indent fuel spaces broke cur
        (part ++ more, fresh, cur)

/-! ## Quoted text -/

def escapeLetters : List (Char × Char) :=
  [('0', '\x00'), ('a', '\x07'), ('b', '\x08'), ('t', '\t'), ('\t', '\t'), ('n', '\n'),
    ('v', '\x0b'), ('f', '\x0c'), ('r', '\r'), ('e', '\x1b'), (' ', ' '), ('"', '"'),
    ('\\', '\\'), ('/', '/'), ('N', '\x85'), ('_', '\xa0'), ('L', '\u2028'), ('P', '\u2029')]

/-- The number of hexadecimal digits after an escape letter. -/
def escapeDigits? : Char → Option Nat
  | 'x' => some 2
  | 'u' => some 4
  | 'U' => some 8
  | _ => none

/-- Reads blanks and empty lines inside quotes; answers the breaks. -/
def quotedBreaks : Nat → Cursor → Option (List Char × Cursor)
  | 0, _ => none
  | fuel + 1, cur =>
    if cur.seesBoundary then none
    else
      let cur := cur.skipWhile fun c => c == ' ' || c == '\t'
      match cur.lineBreak? with
      | none => some ([], cur)
      | some (c, cur) => (quotedBreaks fuel cur).map fun p => (c :: p.1, p.2)

def escape? (cur : Cursor) : Option (List Char × Cursor) := do
  let c ← cur.peek
  match escapeLetters.find? (·.1 == c) with
  | some (_, meaning) => return ([meaning], cur.next)
  | none =>
    match escapeDigits? c with
    | some count =>
      let digits := cur.next.rest.take count
      if digits.length < count || !digits.all Text.isHexDigit then none
      else
        let n := Text.hexValue digits
        if n ≥ 0x110000 then none
        else return ([if n.isValidChar then Char.ofNat n else '\ufffd'], cur.next.forward count)
    | none =>
      let (_, cur) ← cur.lineBreak?
      quotedBreaks (cur.rest.length + 1) cur

def quotedText (isDouble : Bool) : Nat → Cursor → Option (List Char × Cursor)
  | 0, _ => none
  | fuel + 1, cur => do
    let c ← cur.peek
    let go (text : List Char) (cur : Cursor) : Option (List Char × Cursor) :=
      (quotedText isDouble fuel cur).map fun p => (text ++ p.1, p.2)
    if c == '\'' && !isDouble then
      if cur.next.sees '\'' then go ['\''] (cur.forward 2) else some ([], cur.next)
    else if c == '"' && isDouble then some ([], cur.next)
    else if c == '\\' && isDouble then
      let (text, cur) ← escape? cur.next
      go text cur
    else if c == ' ' || c == '\t' then
      let (blanks, cur) := cur.takeWhile fun c => c == ' ' || c == '\t'
      match cur.lineBreak? with
      | some (first, cur) =>
        let (others, cur) ← quotedBreaks (cur.rest.length + 1) cur
        go (foldBreak first others) cur
      | none => if cur.rest.isEmpty then none else go blanks cur
    else
      match cur.lineBreak? with
      | some (first, cur) =>
        let (others, cur) ← quotedBreaks (cur.rest.length + 1) cur
        go (foldBreak first others) cur
      | none => go [c] cur.next

/-! ## Blocks -/

/-- What happens to the line breaks at the end of a block. -/
inductive Chomping where
  | clip
  | strip
  | keep
  deriving DecidableEq

def Chomping.ofSign? : Char → Option Chomping
  | '+' => some .keep
  | '-' => some .strip
  | _ => none

/-- Reads the signs after the mark of a block: its chomping and its indentation. -/
def blockHeader? (cur : Cursor) : Option (Chomping × Option Nat × Cursor) := do
  let sign (cur : Cursor) : Option Chomping × Cursor :=
    match cur.peek.bind Chomping.ofSign? with
    | some c => (some c, cur.next)
    | none => (none, cur)
  let digit (cur : Cursor) : Option Nat × Cursor :=
    match cur.peek with
    | some c => if c.isDigit then (some (c.toNat - 48), cur.next) else (none, cur)
    | none => (none, cur)
  let (before, cur) := sign cur
  let (width, cur) := digit cur
  let (after, cur) := if before.isNone && width.isSome then sign cur else (none, cur)
  if width == some 0 || !endOr isSpaceOrBreak cur.peek then none
  else
    let cur := cur.skipSpaces.skipComment
    if !endOr isBreak cur.peek then none
    else return ((before.or after).getD .clip, width, cur.skipBreak)

/-- Reads the empty lines and the indentation before a block; answers the breaks and the greatest
column reached. -/
def blockIndentation : Nat → Nat → Cursor → List Char × Nat × Cursor
  | 0, deepest, cur => ([], deepest, cur)
  | fuel + 1, deepest, cur =>
    if cur.sees ' ' then
      let cur := cur.next
      blockIndentation fuel (max deepest cur.column) cur
    else
      match cur.lineBreak? with
      | none => ([], deepest, cur)
      | some (c, cur) =>
        let (more, deepest, cur) := blockIndentation fuel deepest cur
        (c :: more, deepest, cur)

def indentTo (column : Nat) : Nat → Cursor → Cursor
  | 0, cur => cur
  | fuel + 1, cur =>
    if cur.column < column && cur.sees ' ' then indentTo column fuel cur.next else cur

/-- Reads empty lines, and the indentation of the next line up to a column; answers the breaks. -/
def blockBreaks (column : Nat) : Nat → Cursor → List Char × Cursor
  | 0, cur => ([], cur)
  | fuel + 1, cur =>
    let cur := indentTo column column cur
    match cur.lineBreak? with
    | none => ([], cur)
    | some (c, cur) =>
      let (more, cur) := blockBreaks column fuel cur
      (c :: more, cur)

/-- Reads the lines of a block that are indented by `indent` columns, after the empty lines
`breaks`. -/
def blockLines (folded : Bool) (chomping : Chomping) (indent : Nat) :
    Nat → List Char → Cursor → List Char × Cursor
  | 0, _, cur => ([], cur)
  | fuel + 1, breaks, cur =>
    let spaced := cur.seesAny fun c => c == ' ' || c == '\t'
    let (line, cur) := cur.takeWhile (!isBreak ·)
    let stop := (cur.lineBreak?.map (·.1)).toList
    let (more, cur) := blockBreaks indent (cur.rest.length + 1) cur.skipBreak
    if cur.column = indent && !cur.rest.isEmpty then
      let nextSpaced := cur.seesAny fun c => c == ' ' || c == '\t'
      let joint :=
        if folded && stop == ['\n'] && !spaced && !nextSpaced then
          (if more.isEmpty then [' '] else [])
        else stop
      let (rest, cur) := blockLines folded chomping indent fuel more cur
      (breaks ++ line ++ joint ++ rest, cur)
    else
      let tail :=
        match chomping with
        | .clip => stop
        | .strip => []
        | .keep => stop ++ more
      (breaks ++ line ++ tail, cur)

/-- Reads a block after its mark; the lines around it are indented by `outer` columns. -/
def blockText? (folded : Bool) (outer : Int) (cur : Cursor) : Option (List Char × Cursor) := do
  let (chomping, width, cur) ← blockHeader? cur
  let least := (max (outer + 1) 1).toNat
  let (breaks, indent, cur) : List Char × Nat × Cursor :=
    match width with
    | none =>
      let (breaks, deepest, cur) := blockIndentation (cur.rest.length + 1) 0 cur
      (breaks, max least deepest, cur)
    | some width =>
      let indent := least + width - 1
      let (breaks, cur) := blockBreaks indent (cur.rest.length + 1) cur
      (breaks, indent, cur)
  if cur.column = indent && !cur.rest.isEmpty then
    return blockLines folded chomping indent (cur.rest.length + 1) breaks cur
  else return (if chomping == .keep then breaks else [], cur)

end ReleaseSearch.Yaml
