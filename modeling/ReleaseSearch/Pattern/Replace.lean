import ReleaseSearch.Pattern.Reader
import ReleaseSearch.Pattern.Match

/-!
# Replacing matches

A `Rule` replaces every match of a pattern by an expanded template.  In a template, a backslash
with a number or with a name in angle brackets stands for what a group matched, and the usual
escapes stand for control characters; `dollarGroups` turns the `$1` and `${1}` notation into
that form first.

A match may be empty, but not directly where the previous match ended when that one was empty
too.
-/

namespace ReleaseSearch.Pattern

open ReleaseSearch.Text Reader

inductive Part where
  | text (cs : List Char)
  | group (index : Nat)

/-- Why a replacement failed: the pattern or the template could not be read. -/
inductive ReplaceError where
  | pattern (fault : Fault)
  | template
  deriving DecidableEq, Repr

/-- A reference in dollar notation at the start of a text, in the notation of templates, and the
number of characters it takes up. -/
def dollarGroup? : List Char → Option (List Char × Nat)
  | '$' :: '{' :: cs =>
    let ds := cs.takeWhile isDigit
    if !ds.isEmpty && (cs.drop ds.length).head? == some '}' then
      some (['\\', 'g', '<'] ++ ds ++ ['>'], ds.length + 3)
    else none
  | '$' :: cs =>
    let ds := cs.takeWhile isDigit
    if ds.isEmpty then none else some (['\\', 'g', '<'] ++ ds ++ ['>'], ds.length + 1)
  | _ => none

/-- Turns the references in dollar notation into others, after passing over `skip` characters. -/
def dollarGroups : Nat → List Char → List Char
  | _, [] => []
  | skip + 1, _ :: cs => dollarGroups skip cs
  | 0, c :: cs =>
    match dollarGroup? (c :: cs) with
    | some (reference, length) => reference ++ dollarGroups (length - 1) cs
    | none => c :: dollarGroups 0 cs

/-- The group that a template refers to in angle brackets. -/
def templateGroup (groups : Nat) (names : List (String × Nat)) (cs : List Char) :
    Reader Part := do
  if isName cs then
    match names.find? (·.1 == String.ofList cs) with
    | some (_, index) => return .group index
    | none => refuse
  else
    match Decimal.readInt? (String.ofList cs) with
    | some n => if n < 0 || n > groups then refuse else return .group n.toNat
    | none => refuse

/-- A group number or an octal escape of three digits, after its first digit. -/
def templateNumber (groups : Nat) (c : Char) : Reader Part := do
  let reference (ds : List Char) : Reader Part := do
    let index := Decimal.digitsValue ds
    if index > groups then refuse else return .group index
  match ← peekIf Char.isDigit with
  | none => reference [c]
  | some d =>
    skip
    match ← peekIf isOctalDigit with
    | some e =>
      if isOctalDigit c && isOctalDigit d then
        skip
        let code := octalValue [c, d, e]
        if code > 255 then refuse else return .text [Char.ofNat code]
      else reference [c, d]
    | none => reference [c, d]

def readParts (groups : Nat) (names : List (String × Nat)) : Nat → Reader (List Part)
  | 0 => refuse
  | fuel + 1 => do
    match ← next with
    | none => return []
    | some (.plain c) => return .text [c] :: (← readParts groups names fuel)
    | some .dangling => refuse
    | some (.escaped c) =>
      let part ←
        if c == 'g' then
          if ← accept '<' then templateGroup groups names (← name '>') else refuse
        else if c == '0' then
          let code := octalValue (← takeUpTo isOctalDigit 2)
          pure (.text [Char.ofNat (code % 256)])
        else if c.isDigit then templateNumber groups c
        else
          match controlEscape? c with
          | some code => pure (.text [Char.ofNat code])
          | none => if c.isAlpha then refuse else pure (.text ['\\', c])
      return part :: (← readParts groups names fuel)

def Program.readTemplate (program : Program) (text : List Char) : Except Fault (List Part) := do
  let ts := tokens text
  let start : Reading := { rest := ts }
  let (parts, _) ← (do
    moveTo ts
    readParts program.groups program.names (ts.length + 1) : Reader (List Part)).run start
  return parts

section Letters

variable {α : Type} [Letter α]

/-- What a template stands for after a match; a group that took no part stands for nothing. -/
def expand (parts : List Part) (whole : List α) (caps : Captures α) : List α :=
  parts.flatMap fun
    | .text cs => cs.map Letter.ofChar
    | .group 0 => whole
    | .group index => (caps.get? index).getD []

def Program.replaceFrom (program : Program) (depth : Nat) (parts : List Part) :
    Nat → Bool → Cursor α → List α
  | 0, _, cur => cur.after
  | fuel + 1, advance, cur =>
    match program.matchAt depth advance cur with
    | some found =>
      expand parts (found.stop.since cur) found.captures ++
        program.replaceFrom depth parts fuel (found.stop.pos == cur.pos) found.stop
    | none =>
      match cur.after with
      | [] => []
      | a :: rest =>
        a :: program.replaceFrom depth parts fuel false ⟨cur.pos + 1, a :: cur.before, rest⟩

end Letters

/-- A pattern and the template that its matches are replaced by. -/
structure Rule where
  program : Program
  parts : List Part

def Rule.read [Library] (pattern replacement : String) : Except ReplaceError Rule :=
  match Program.read pattern.toList with
  | .error fault => .error (.pattern fault)
  | .ok program =>
    match program.readTemplate (dollarGroups 0 replacement.toList) with
    | .error _ => .error .template
    | .ok parts => .ok ⟨program, parts⟩

/-- Replaces every match of the pattern by the expanded template. -/
def Rule.apply {α : Type} [Letter α] (rule : Rule) (cs : List α) : List α :=
  let depth := Node.depthAll cs.length rule.program.body + 2
  rule.program.replaceFrom depth rule.parts (2 * cs.length + 2) false (Cursor.start cs)

end ReleaseSearch.Pattern
