import ReleaseSearch.Text.Line
import ReleaseSearch.Text.Word
import ReleaseSearch.Text.Case

/-!
# Patterns

The syntax of regular expressions as they occur in replacement filters, and what a single test
accepts.  A pattern is a list of `Node`s; the flags in force are passed down when it is matched,
because a group may change them for its own body.  A pattern is written in characters, but what it
is matched against may hold any kind of letters.
-/

namespace ReleaseSearch.Pattern

open ReleaseSearch.Text

/-- The switches that a pattern may turn on for itself or for one of its groups. -/
structure Flags where
  ignoreCase : Bool := false
  multiLine : Bool := false
  dotAll : Bool := false
  verbose : Bool := false
  ascii : Bool := false
  unicode : Bool := false
  plain : Bool := false
  deriving DecidableEq, Repr

namespace Flags

def union (a b : Flags) : Flags where
  ignoreCase := a.ignoreCase || b.ignoreCase
  multiLine := a.multiLine || b.multiLine
  dotAll := a.dotAll || b.dotAll
  verbose := a.verbose || b.verbose
  ascii := a.ascii || b.ascii
  unicode := a.unicode || b.unicode
  plain := a.plain || b.plain

/-- The switches of `a` that are off in `b`. -/
def without (a b : Flags) : Flags where
  ignoreCase := a.ignoreCase && !b.ignoreCase
  multiLine := a.multiLine && !b.multiLine
  dotAll := a.dotAll && !b.dotAll
  verbose := a.verbose && !b.verbose
  ascii := a.ascii && !b.ascii
  unicode := a.unicode && !b.unicode
  plain := a.plain && !b.plain

def isEmpty (a : Flags) : Bool := a == {}

/-- Whether one of the two switches that choose an alphabet is on. -/
def choosesAlphabet (a : Flags) : Bool := a.ascii || a.unicode

/-- The flags inside a group that turns `on` and `off` switches. -/
def enter (outer on off : Flags) : Flags :=
  let base := if on.choosesAlphabet then { outer with ascii := false, unicode := false } else outer
  (base.union on).without off

def ofLetter? : Char → Option Flags
  | 'i' => some { ignoreCase := true }
  | 'm' => some { multiLine := true }
  | 's' => some { dotAll := true }
  | 'x' => some { verbose := true }
  | 'a' => some { ascii := true }
  | 'u' => some { unicode := true }
  | 't' => some { plain := true }
  | _ => none

end Flags

/-- The kinds of characters that have an escape of their own. -/
inductive Category where
  | digit
  | blank
  | word
  deriving DecidableEq, Repr

/-- A member of a character set.  Characters are given by code point. -/
inductive Item where
  | one (code : Nat)
  | range (first last : Nat)
  | category (kind : Category) (inside : Bool)
  deriving DecidableEq, Repr

/-- A place that a pattern may require without using up characters. -/
inductive Anchor where
  | lineStart
  | lineStop
  | textStart
  | textStop
  | edge
  | noEdge
  deriving DecidableEq, Repr

/-- How a repetition chooses its number of rounds. -/
inductive Greed where
  | greedy
  | lazy
  | possessive
  deriving DecidableEq, Repr

inductive Node where
  | char (code : Nat)
  | notChar (code : Nat)
  | any
  | set (negated : Bool) (items : List Item)
  | anchor (place : Anchor)
  | group (index : Option Nat) (on off : Flags) (body : List Node)
  | atomic (body : List Node)
  | look (behind : Option Nat) (negated : Bool) (body : List Node)
  | back (index : Nat)
  | choice (index : Nat) (yes no : List Node)
  | either (branches : List (List Node))
  | loop (greed : Greed) (least : Nat) (most : Option Nat) (body : List Node)

/-- A pattern that has been read: its flags, the number of its groups, their names, its body. -/
structure Program where
  flags : Flags
  groups : Nat
  names : List (String × Nat)
  body : List Node

/-! ## What a single test accepts -/

def Category.holds (ascii : Bool) (c : Char) : Category → Bool
  | .digit => if ascii then isAsciiDigit c else isDigit c
  | .blank => if ascii then isAsciiBlank c else isBlank c
  | .word => if ascii then isAsciiWord c else isWord c

/-- The lower-case form of a character in the alphabet that the flags choose. -/
def foldChar (ascii : Bool) (c : Char) : Char := if ascii then asciiLowerChar c else lowerChar c

/-- Whether `c` is the character `code`, up to case. -/
def sameFolded (flags : Flags) (code : Nat) (c : Char) : Bool :=
  let wanted := Char.ofNat code
  if wanted.toNat != code then false
  else if flags.ascii then asciiLowerChar c == asciiLowerChar wanted
  else if !isCased wanted then c == wanted
  else
    let low := lowerChar wanted
    lowerChar c == low || (foldMates low).contains (lowerChar c)

section Letters

variable {α : Type} [Letter α]

/-- The code point of a letter, in lower case if the flags ignore the case. -/
def foldedCode (flags : Flags) (a : α) : Nat :=
  match Letter.char? a with
  | some c => (if flags.ignoreCase then foldChar flags.ascii c else c).toNat
  | none => Letter.code a

/-- Whether a letter has the code point `code`, up to case if the flags ignore it. -/
def sameChar (flags : Flags) (code : Nat) (a : α) : Bool :=
  match Letter.char? a with
  | some c => if flags.ignoreCase then sameFolded flags code c else c.toNat == code
  | none => Letter.code a == code

end Letters

/-- The characters, as code points, whose lower-case form is the character `n`. -/
def lowerSources (ascii : Bool) (n : Nat) : List Nat :=
  let near := if 97 ≤ n ∧ n ≤ 122 then [n, n - 32] else [n]
  if ascii then near
  else
    near ++ lowerRuns.toList.filterMap fun r =>
      let source := ((n : Int) - r.2.2.2).toNat
      if r.1 ≤ source ∧ source ≤ r.2.1 ∧ (source - r.1) % r.2.2.1 = 0 then some source else none

/-- Whether a set member accepts a letter exactly. -/
def Item.holds {α : Type} [Letter α] (ascii : Bool) (a : α) : Item → Bool
  | .one code => Letter.code a == code
  | .range first last => first ≤ Letter.code a && Letter.code a ≤ last
  | .category kind inside => Letter.isA (kind.holds ascii ·) a == inside

/-- Whether a set member accepts a character whose lower-case form is `low`.  A member beyond
the basic plane is compared as it stands. -/
def Item.holdsFolded (ascii : Bool) (low : Char) : Item → Bool
  | .one code =>
    if code > 0xffff then low.toNat == code
    else
      let wanted := Char.ofNat code
      wanted.toNat == code &&
        (low == foldChar ascii wanted ||
          (!ascii && (foldMates (foldChar ascii wanted)).contains low))
  | .range first last =>
    let lows := if ascii then [low] else low :: foldMates low
    lows.any fun l => (lowerSources ascii l.toNat).any fun n => first ≤ n && n ≤ last
  | .category kind inside => kind.holds ascii low == inside

section Letters

variable {α : Type} [Letter α]

/-- Whether a set accepts a letter.  Only characters have a case to ignore. -/
def setHolds (flags : Flags) (negated : Bool) (items : List Item) (a : α) : Bool :=
  let found :=
    match Letter.char? a, flags.ignoreCase with
    | some c, true => items.any (Item.holdsFolded flags.ascii (foldChar flags.ascii c))
    | _, _ => items.any (Item.holds flags.ascii a)
  found != negated

def dotHolds (flags : Flags) (a : α) : Bool := flags.dotAll || !Letter.isA (· == '\n') a

/-- The test of a node that always uses up exactly one letter. -/
def Node.test? (flags : Flags) : Node → Option (α → Bool)
  | .char code => some (sameChar flags code)
  | .notChar code => some fun a => !sameChar flags code a
  | .any => some (dotHolds flags)
  | .set negated items => some (setHolds flags negated items)
  | _ => none

end Letters

/-! ## Widths -/

/-- A width that stands for "no bound". -/
def widthLimit : Nat := Nat.pow 2 64

mutual

/-- The least and the greatest number of letters that a node uses up, given those of the
groups it may refer to. -/
def Node.width (groups : Nat → Nat × Nat) : Node → Nat × Nat
  | .char _ | .notChar _ | .any | .set _ _ => (1, 1)
  | .anchor _ | .look _ _ _ => (0, 0)
  | .group _ _ _ body | .atomic body => Node.widthAll groups body
  | .back index => groups index
  | .choice _ yes no =>
    let (lo, hi) := Node.widthAll groups yes
    let (lo', hi') := Node.widthAll groups no
    (min lo lo', max hi hi')
  | .either branches => Node.widthAny groups branches
  | .loop _ least most body =>
    let (lo, hi) := Node.widthAll groups body
    (lo * least,
      match most with
      | some n => hi * n
      | none => if hi = 0 then 0 else widthLimit)

def Node.widthAll (groups : Nat → Nat × Nat) : List Node → Nat × Nat
  | [] => (0, 0)
  | node :: rest =>
    let (lo, hi) := Node.width groups node
    let (lo', hi') := Node.widthAll groups rest
    (min (lo + lo') widthLimit, min (hi + hi') widthLimit)

def Node.widthAny (groups : Nat → Nat × Nat) : List (List Node) → Nat × Nat
  | [] => (widthLimit, 0)
  | branch :: rest =>
    let (lo, hi) := Node.widthAll groups branch
    let (lo', hi') := Node.widthAny groups rest
    (min lo lo', max hi hi')

end

mutual

def Node.repeats : Node → Bool
  | .loop .. => true
  | .group _ _ _ body | .atomic body | .look _ _ body => Node.repeatsAll body
  | .choice _ yes no => Node.repeatsAll yes || Node.repeatsAll no
  | .either branches => Node.repeatsAny branches
  | _ => false

def Node.repeatsAll : List Node → Bool
  | [] => false
  | node :: rest => Node.repeats node || Node.repeatsAll rest

def Node.repeatsAny : List (List Node) → Bool
  | [] => false
  | branch :: rest => Node.repeatsAll branch || Node.repeatsAny rest

end

end ReleaseSearch.Pattern
