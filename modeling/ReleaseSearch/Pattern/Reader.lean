import ReleaseSearch.Pattern.Basic
import ReleaseSearch.Decimal.Read

/-!
# Reading a pattern

`Program.read` turns the text of a regular expression into a `Program` or says why it is none.
The text is first cut into tokens, a backslash going together with the character after it; the
reader then looks one token ahead.  A backslash at the very end is refused as soon as it comes
into view.
-/

namespace ReleaseSearch.Pattern

open ReleaseSearch.Text

inductive Fault where
  | malformed
  | repetitionTooLarge
  | codePointTooLarge
  | flagConflict
  | numeralTooLong
  | tooDeep
  deriving DecidableEq, Repr

/-- What the reading of a pattern depends on besides its text. -/
class Library where
  /-- The character that has a name. -/
  named? : String → Option Char
  /-- Whether the groups of a pattern are nested too deeply for the room that there is for reading
  it.  How much room that is depends on who asks for the pattern to be read. -/
  isTooDeep : String → Bool

/-- A library in which no character has a name, and room for patterns of any depth. -/
abbrev Library.bare : Library where
  named? _ := none
  isTooDeep _ := false

namespace Bare

scoped instance : Library := .bare

end Bare

/-- One unit of a pattern's text. -/
inductive Token where
  | plain (c : Char)
  | escaped (c : Char)
  | dangling
  deriving DecidableEq, Repr

def tokens : List Char → List Token
  | [] => []
  | ['\\'] => [.dangling]
  | '\\' :: c :: cs => .escaped c :: tokens cs
  | c :: cs => .plain c :: tokens cs

def Token.text : Token → List Char
  | .plain c => [c]
  | .escaped c => ['\\', c]
  | .dangling => ['\\']

/-- What the reader knows: the tokens to come, the flags turned on for the whole pattern, the
widths of the groups so far (`none` while a group is open), their names, the first group that a
lookbehind in progress may not refer to, the groups that conditions refer to, and whether some
lookbehind has no fixed width. -/
structure Reading where
  rest : List Token
  flags : Flags := {}
  widths : List (Option (Nat × Nat)) := []
  names : List (String × Nat) := []
  lookbehind : Option Nat := none
  conditions : List Nat := []
  loose : Bool := false

abbrev Reader := StateT Reading (Except Fault)

/-- The number of groups opened so far, the whole match included. -/
def Reading.groups (s : Reading) : Nat := s.widths.length + 1

/-- The widths of a group, when it is closed. -/
def Reading.width? (s : Reading) (index : Nat) : Option (Nat × Nat) :=
  if index = 0 then none else (s.widths[index - 1]?).join

/-- The largest number of repetitions that can be written, plus one. -/
def repetitionLimit : Nat := 4294967295

/-- The largest group number that can be written, plus one. -/
def groupLimit : Nat := 2147483647

namespace Reader

def refuse {α : Type} : Reader α := throw .malformed

def peek : Reader (Option Token) := do return (← get).rest.head?

/-- Moves on to `rest`, which may not start with a dangling backslash. -/
def moveTo (rest : List Token) : Reader Unit := do
  if rest.head? == some .dangling then refuse
  modify fun s => { s with rest := rest }

def skip : Reader Unit := do moveTo (← get).rest.tail

def next : Reader (Option Token) := do
  let t ← peek
  skip
  return t

/-- Takes the next token, which has to be there. -/
def need : Reader Token := do
  match ← next with
  | some t => return t
  | none => refuse

/-- Takes the character `c` if it comes next. -/
def accept (c : Char) : Reader Bool := do
  if (← peek) == some (.plain c) then
    skip
    return true
  else return false

/-- Takes up to `n` characters that satisfy `p`. -/
def takeUpTo (p : Char → Bool) : Nat → Reader (List Char)
  | 0 => return []
  | n + 1 => do
    match ← peek with
    | some (.plain c) =>
      if p c then
        skip
        return c :: (← takeUpTo p n)
      else return []
    | _ => return []

/-- Takes all characters up to `stop`, which is used up; there has to be at least one. -/
def takeUntil (stop : Char) : Nat → List Char → Reader (List Char)
  | 0, _ => refuse
  | fuel + 1, soFar => do
    let t ← need
    if t == .plain stop then
      if soFar.isEmpty then refuse else return soFar
    else takeUntil stop fuel (soFar ++ t.text)

def name (stop : Char) : Reader (List Char) := do
  takeUntil stop ((← get).rest.length + 1) []

end Reader

open Reader

def isOctalDigit (c : Char) : Bool := '0' ≤ c && c ≤ '7'

def octalValue (cs : List Char) : Nat := cs.foldl (fun n c => 8 * n + (c.toNat - 48)) 0

/-- The control characters that letters stand for. -/
def controlEscape? : Char → Option Nat
  | 'a' => some 7
  | 'b' => some 8
  | 'f' => some 12
  | 'n' => some 10
  | 'r' => some 13
  | 't' => some 9
  | 'v' => some 11
  | '\\' => some 92
  | _ => none

/-- The kinds of characters that letters stand for. -/
def categoryEscape? : Char → Option Item
  | 'd' => some (.category .digit true)
  | 'D' => some (.category .digit false)
  | 's' => some (.category .blank true)
  | 'S' => some (.category .blank false)
  | 'w' => some (.category .word true)
  | 'W' => some (.category .word false)
  | _ => none

def anchorEscape? : Char → Option Anchor
  | 'A' => some .textStart
  | 'b' => some .edge
  | 'B' => some .noEdge
  | 'Z' => some .textStop
  | _ => none

/-- A character given by exactly `n` hexadecimal digits. -/
def readHex (n : Nat) : Reader Nat := do
  let ds ← takeUpTo isHexDigit n
  if ds.length = n then return hexValue ds else refuse

def readNamed [Library] : Reader Nat := do
  if !(← accept '{') then refuse
  match Library.named? (String.ofList (← name '}')) with
  | some c => return c.toNat
  | none => refuse

/-- The escapes that mean the same inside and outside of a set. -/
def readCodeEscape [Library] (c : Char) : Reader Nat := do
  if c == 'x' then readHex 2
  else if c == 'u' then readHex 4
  else if c == 'U' then
    let code ← readHex 8
    if code > 0x7fffffff then throw .codePointTooLarge
    else if code > 0x10ffff then refuse
    else return code
  else if c == 'N' then readNamed
  else if c.isAlphanum then refuse
  else return c.toNat

def readSetEscape [Library] (c : Char) : Reader Item := do
  if let some code := controlEscape? c then return .one code
  if let some item := categoryEscape? c then return item
  if isOctalDigit c then
    let code := octalValue (c :: (← takeUpTo isOctalDigit 2))
    if code > 255 then refuse else return .one code
  return .one (← readCodeEscape c)

/-- Refuses a reference to an open group, or from a lookbehind to a group of its own. -/
def checkLookbehind (index : Nat) : Reader Unit := do
  let s ← get
  match s.lookbehind with
  | none => return
  | some first => if (s.width? index).isNone || index ≥ first then refuse

def readBack (digits : List Char) : Reader Node := do
  let index := Decimal.digitsValue digits
  let s ← get
  if index ≥ s.groups || (s.width? index).isNone then refuse
  checkLookbehind index
  return .back index

/-- The next token's character, if it is a plain one that satisfies `p`. -/
def peekIf (p : Char → Bool) : Reader (Option Char) := do
  match ← peek with
  | some (.plain c) => return if p c then some c else none
  | _ => return none

def readEscape [Library] (c : Char) : Reader Node := do
  if let some place := anchorEscape? c then return .anchor place
  if let some item := categoryEscape? c then return .set false [item]
  if let some code := controlEscape? c then return .char code
  if c == '0' then return .char (octalValue (← takeUpTo isOctalDigit 2))
  if c.isDigit then
    match ← peekIf Char.isDigit with
    | none => readBack [c]
    | some d =>
      skip
      match ← peekIf isOctalDigit with
      | some e =>
        if isOctalDigit c && isOctalDigit d then
          skip
          let code := octalValue [c, d, e]
          if code > 255 then refuse else return .char code
        else readBack [c, d]
      | none => readBack [c, d]
  else return .char (← readCodeEscape c)

def readSetEnd [Library] : Token → Reader Item
  | .plain c => return .one c.toNat
  | .escaped c => readSetEscape c
  | .dangling => refuse

/-- The members of a set up to its closing bracket; a bracket that comes first is a member. -/
def readSetItems [Library] : Nat → List Item → Reader (List Item)
  | 0, _ => refuse
  | fuel + 1, items => do
    let t ← need
    if t == .plain ']' && !items.isEmpty then return items
    let first ← readSetEnd t
    if ← accept '-' then
      let t' ← need
      if t' == .plain ']' then return items ++ [first, .one 45]
      let last ← readSetEnd t'
      match first, last with
      | .one lo, .one hi =>
        if hi < lo then refuse else readSetItems fuel (items ++ [.range lo hi])
      | _, _ => refuse
    else readSetItems fuel (items ++ [first])

/-- A character set, after its opening bracket. -/
def readSet [Library] : Reader Node := do
  let negated ← accept '^'
  let items := (← readSetItems ((← get).rest.length + 1) []).eraseDups
  match items, negated with
  | [.one code], false => return .char code
  | [.one code], true => return .notChar code
  | _, _ => return .set negated items

def takeDigits : Reader (List Char) := do
  takeUpTo Char.isDigit ((← get).rest.length + 1)

def bound (digits : List Char) : Reader Nat := do
  if digits.length > Decimal.digitLimit then throw .numeralTooLong
  let n := Decimal.digitsValue digits
  if n ≥ repetitionLimit then throw .repetitionTooLarge else return n

/-- The bounds between braces, or `none` (and nothing used up) if there are none. -/
def readBounds : Reader (Option (Nat × Option Nat)) := do
  let start := (← get).rest
  if start.head? == some (.plain '}') then return none
  let lo ← takeDigits
  let hi ← if ← accept ',' then takeDigits else pure lo
  if !(← accept '}') then
    moveTo start
    return none
  let least ← if lo.isEmpty then pure 0 else bound lo
  if hi.isEmpty then return some (least, none)
  let most ← bound hi
  if most < least then refuse else return some (least, some most)

/-- The body that a repetition of `node` repeats. -/
def repeatable : Node → List Node
  | .group none on off body => if on.isEmpty && off.isEmpty then body else [.group none on off body]
  | node => [node]

/-- Applies a repetition to the last node read (`done` is in reverse order). -/
def repeatLast (least : Nat) (most : Option Nat) (done : List Node) : Reader (List Node) := do
  match done with
  | [] | .anchor _ :: _ | .loop .. :: _ => refuse
  | node :: before =>
    let isLazy ← accept '?'
    let isPossessive ← if isLazy then pure false else accept '+'
    let greed := if isLazy then Greed.lazy else if isPossessive then Greed.possessive
      else Greed.greedy
    return .loop greed least most (repeatable node) :: before

/-- Switches up to one of the characters in `stops`, which is used up. -/
def readSwitches (stops : List Char) (typed : Bool) : Nat → Flags → Token →
    Reader (Flags × Char)
  | 0, _, _ => refuse
  | fuel + 1, flags, t => do
    match t with
    | .plain c =>
      match Flags.ofLetter? c with
      | none => refuse
      | some flag =>
        if flag.choosesAlphabet && typed then refuse
        let flags := flags.union flag
        if flags.ascii && flags.unicode then refuse
        match ← need with
        | .plain d =>
          if stops.contains d then return (flags, d)
          else readSwitches stops typed fuel flags (.plain d)
        | _ => refuse
    | _ => refuse

/-- The switches of a group, `none` when they hold for the whole pattern. -/
def readFlags (t : Token) : Reader (Option (Flags × Flags)) := do
  let fuel := (← get).rest.length + 1
  let (on, stop) ←
    if t == .plain '-' then pure ({}, '-') else readSwitches [')', '-', ':'] false fuel {} t
  if stop == ')' then
    modify fun s => { s with flags := s.flags.union on }
    return none
  if on.plain then refuse
  if stop == ':' then return some (on, {})
  let (off, _) ← readSwitches [':'] true fuel {} (← need)
  if off.plain then refuse
  if on != on.without off then refuse
  return some (on, off)

def openGroup (name : Option (List Char)) : Reader Nat := do
  let s ← get
  let index := s.groups
  match name with
  | none => set { s with widths := s.widths ++ [none] }
  | some cs =>
    let key := String.ofList cs
    if s.names.any (·.1 == key) then refuse
    set { s with widths := s.widths ++ [none], names := s.names ++ [(key, index)] }
  return index

def closeGroup (index : Nat) (body : List Node) : Reader Unit :=
  modify fun s =>
    let width := Node.widthAll (fun i => (s.width? i).getD (0, 0)) body
    { s with widths := s.widths.set (index - 1) (some width) }

def namedGroup (cs : List Char) : Reader Nat := do
  match (← get).names.find? (·.1 == String.ofList cs) with
  | some (_, index) => return index
  | none => refuse

/-- The group that a condition asks about, by name or by number. -/
def readCondition : Reader Nat := do
  let cs ← name ')'
  if isName cs then namedGroup cs
  else
    match Decimal.readInt? (String.ofList cs) with
    | some n =>
      if n ≤ 0 || n ≥ groupLimit then refuse
      modify fun s => { s with conditions := n.toNat :: s.conditions }
      return n.toNat
    | none => refuse

def readNamedBack : Reader Node := do
  let cs ← name ')'
  if !isName cs then refuse
  let index ← namedGroup cs
  if ((← get).width? index).isNone then refuse
  checkLookbehind index
  return .back index

/-- A comment, up to its closing parenthesis. -/
def skipComment : Nat → Reader Unit
  | 0 => refuse
  | fuel + 1 => do
    if (← need) == .plain ')' then return else skipComment fuel

/-- A comment in a verbose pattern, up to the end of its line. -/
def skipLine : Nat → Reader Unit
  | 0 => return
  | fuel + 1 => do
    match ← next with
    | none => return
    | some t => if t == .plain '\n' then return else skipLine fuel

/-- What an opening parenthesis starts. -/
inductive Opening where
  | node (n : Node)
  | nothing
  | group (name : Option (List Char))
  | scope (on off : Flags)
  | atomic
  | look (behind negated : Bool)
  | condition

/-- Reads what follows a parenthesis and a question mark.  Switches for the whole pattern may
only come `first`. -/
def readExtension (first : Bool) : Reader Opening := do
  let t ← need
  match t with
  | .plain 'P' =>
    if ← accept '<' then
      let cs ← name '>'
      if isName cs then return .group (some cs) else refuse
    else if ← accept '=' then return .node (← readNamedBack)
    else refuse
  | .plain ':' => return .scope {} {}
  | .plain '#' =>
    skipComment ((← get).rest.length + 1)
    return .nothing
  | .plain '=' => return .look false false
  | .plain '!' => return .look false true
  | .plain '<' =>
    match ← need with
    | .plain '=' => return .look true false
    | .plain '!' => return .look true true
    | _ => refuse
  | .plain '(' => return .condition
  | .plain '>' => return .atomic
  | _ =>
    match ← readFlags t with
    | none => if first then return .nothing else refuse
    | some (on, off) => return .scope on off

def close : Reader Unit := do
  if !(← accept ')') then refuse

/-- Leaves a non-capturing group without switches out of the sequence around it. -/
def flatten (nodes : List Node) : List Node :=
  nodes.flatMap repeatable

mutual

/-- Alternatives up to a closing parenthesis or the end. -/
def readEither [Library] : Nat → Bool → Bool → Reader (List Node)
  | 0, _, _ => refuse
  | fuel + 1, verbose, outermost => do
    match ← readBranches fuel verbose outermost outermost with
    | [branch] => return branch
    | branches => return [.either branches]

def readBranches [Library] : Nat → Bool → Bool → Bool → Reader (List (List Node))
  | 0, _, _, _ => refuse
  | fuel + 1, verbose, outermost, first => do
    let branch ← readNodes fuel verbose first []
    if ← accept '|' then
      let s ← get
      let verbose := if outermost then s.flags.verbose else verbose
      return branch :: (← readBranches fuel verbose outermost false)
    else return [branch]

/-- Nodes in sequence; `done` holds the ones so far in reverse order. -/
def readNodes [Library] : Nat → Bool → Bool → List Node → Reader (List Node)
  | 0, _, _, _ => refuse
  | fuel + 1, verbose, first, done => do
    match ← peek with
    | none | some (.plain '|') | some (.plain ')') => return flatten done.reverse
    | some t =>
      skip
      match t with
      | .dangling => refuse
      | .escaped c => readNodes fuel verbose first ((← readEscape c) :: done)
      | .plain c =>
        if verbose && isAsciiBlank c then readNodes fuel verbose first done
        else if verbose && c == '#' then
          skipLine ((← get).rest.length + 1)
          readNodes fuel verbose first done
        else
          match c with
          | '[' => readNodes fuel verbose first ((← readSet) :: done)
          | '.' => readNodes fuel verbose first (.any :: done)
          | '^' => readNodes fuel verbose first (.anchor .lineStart :: done)
          | '$' => readNodes fuel verbose first (.anchor .lineStop :: done)
          | '?' => readNodes fuel verbose first (← repeatLast 0 (some 1) done)
          | '*' => readNodes fuel verbose first (← repeatLast 0 none done)
          | '+' => readNodes fuel verbose first (← repeatLast 1 none done)
          | '{' =>
            match ← readBounds with
            | none => readNodes fuel verbose first (.char 123 :: done)
            | some (least, most) => readNodes fuel verbose first (← repeatLast least most done)
          | '(' =>
            let opening ← if ← accept '?' then readExtension (first && done.isEmpty)
              else pure (.group none)
            match opening with
            | .nothing =>
              let s ← get
              let verbose := verbose || (first && done.isEmpty && s.flags.verbose)
              readNodes fuel verbose first done
            | .node n => readNodes fuel verbose first (n :: done)
            | opening => readNodes fuel verbose first ((← readGroup fuel verbose opening) :: done)
          | c => readNodes fuel verbose first (.char c.toNat :: done)

/-- The rest of what an opening parenthesis started. -/
def readGroup [Library] : Nat → Bool → Opening → Reader Node
  | 0, _, _ => refuse
  | fuel + 1, verbose, opening => do
    match opening with
    | .node n => return n
    | .nothing => refuse
    | .group name =>
      let index ← openGroup name
      let body ← readEither fuel verbose false
      close
      closeGroup index body
      return .group (some index) {} {} body
    | .scope on off =>
      let body ← readEither fuel ((verbose || on.verbose) && !off.verbose) false
      close
      return .group none on off body
    | .atomic =>
      let body ← readEither fuel verbose false
      close
      return .atomic body
    | .look false negated =>
      let body ← readEither fuel verbose false
      close
      return .look none negated body
    | .look true negated =>
      let outer := (← get).lookbehind
      if outer.isNone then modify fun s => { s with lookbehind := some s.groups }
      let body ← readEither fuel verbose false
      if outer.isNone then modify fun s => { s with lookbehind := none }
      close
      let s ← get
      let (lo, hi) := Node.widthAll (fun i => (s.width? i).getD (0, 0)) body
      if lo != hi || lo > repetitionLimit then modify fun s => { s with loose := true }
      return .look (some lo) negated body
    | .condition =>
      let index ← readCondition
      checkLookbehind index
      let yes ← readNodes fuel verbose false []
      let no ← if ← accept '|' then readNodes fuel verbose false [] else pure []
      close
      return .choice index yes no

end

def Program.read [Library] (text : List Char) : Except Fault Program := do
  if Library.isTooDeep (String.ofList text) then throw .tooDeep
  let ts := tokens text
  let start : Reading := { rest := ts }
  let (body, s) ← (do
    moveTo ts
    readEither (4 * ts.length + 8) false true : Reader (List Node)).run start
  if s.flags.ascii && s.flags.unicode then throw .flagConflict
  if !s.rest.isEmpty then throw .malformed
  if s.conditions.any (· ≥ s.groups) then throw .malformed
  if s.loose then throw .malformed
  if s.flags.plain && Node.repeatsAll body then throw .malformed
  return { flags := s.flags, groups := s.widths.length, names := s.names, body := body }

end ReleaseSearch.Pattern
