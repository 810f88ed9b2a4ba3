import ReleaseSearch.Pattern.Reader
import ReleaseSearch.Pattern.Match

/-!
# Searching

`search?` finds the first place where a pattern matches.
-/

namespace ReleaseSearch.Pattern

/-- The first match of a program from a place on. -/
def Program.searchFrom (program : Program) (depth : Nat) :
    Nat → Cursor Char → Option (Found Char)
  | 0, cur => program.matchAt depth false cur
  | fuel + 1, cur =>
    match program.matchAt depth false cur with
    | some found => some found
    | none =>
      match cur.after with
      | [] => none
      | c :: cs => program.searchFrom depth fuel ⟨cur.pos + 1, c :: cur.before, cs⟩

open Bare in
/-- The program of a pattern of this library's own, which names no characters and is not deep. -/
def Program.fixed? (pattern : String) : Option Program := (Program.read pattern.toList).toOption

/-- What the first group of a pattern holds where the pattern first matches in `cs`. -/
def firstGroup? (pattern : String) (cs : List Char) : Option (List Char) := do
  let program ← Program.fixed? pattern
  let depth := Node.depthAll cs.length program.body + 2
  let found ← program.searchFrom depth cs.length (Cursor.start cs)
  found.captures.get? 1

/-- Whether a pattern matches at the start of `cs`; a pattern that cannot be read never does. -/
def startsAt (program : Option Program) (cs : List Char) : Bool :=
  match program with
  | none => false
  | some program =>
    let depth := Node.depthAll cs.length program.body + 2
    (program.matchAt depth false (Cursor.start cs)).isSome

end ReleaseSearch.Pattern
