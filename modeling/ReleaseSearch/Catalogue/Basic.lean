import ReleaseSearch.Catalogue.Directory

/-!
# A catalogue of definitions

A catalogue keeps the definitions that it has loaded, so that a file is read again only if that is
asked for.  Every definition that was loaded has a number of its own, which tells it from an equal
one that was loaded at another time.
-/

namespace ReleaseSearch

open Catalogue

/-- A definition and the number that it got when it was loaded. -/
structure Loaded where
  number : Nat
  definition : Definition

/-- The definitions that are kept, by name, and the next number. -/
structure Catalogue where
  kept : List (String × Loaded) := []
  next : Nat := 0

namespace Catalogue

/-- The definition that is kept under a name. -/
def find? (c : Catalogue) (id : String) : Option Loaded :=
  (c.kept.find? (·.1 == id)).map (·.2)

def forget (c : Catalogue) (id : String) : Catalogue :=
  { c with kept := c.kept.filter (·.1 != id) }

/-- Forgets one name, or everything if no name is given. -/
def clear (c : Catalogue) (id : Option String) : Catalogue :=
  match id with
  | none => { c with kept := [] }
  | some id => if id = "" then { c with kept := [] } else c.forget id

/-- Keeps a definition under a name, in place of what was kept there. -/
def keep (c : Catalogue) (id : String) (d : Definition) : Loaded × Catalogue :=
  (⟨c.next, d⟩, { kept := (c.forget id).kept ++ [(id, ⟨c.next, d⟩)], next := c.next + 1 })

/-- Loads a definition from its file and keeps it; a failure changes nothing. -/
def loadAfresh (settings : Settings) (dir : Directory) (id : String) (c : Catalogue) :
    Except Trouble Loaded × Catalogue :=
  match dir.load settings id with
  | .error e => (.error e, c)
  | .ok d => ((c.keep id d).map .ok fun c => c)

/-- The definition of a name: the one that is kept, if that may be used, else a fresh one. -/
def load (settings : Settings) (dir : Directory) (id : String) (useKept : Bool) (c : Catalogue) :
    Except Trouble Loaded × Catalogue :=
  match if useKept then c.find? id else none with
  | some found => (.ok found, c)
  | none => c.loadAfresh settings dir id

/-- Forgets a definition and loads it from its file. -/
def reload (settings : Settings) (dir : Directory) (id : String) (c : Catalogue) :
    Except Trouble Loaded × Catalogue :=
  (c.clear (some id)).load settings dir id false

/-- The names under which definitions are kept, sorted. -/
def names (c : Catalogue) : List String := (c.kept.map (·.1)).mergeSort fun a b => a ≤ b

end Catalogue

def Definition.same (a b : Definition) : Bool := a.toData.same b.toData

end ReleaseSearch
