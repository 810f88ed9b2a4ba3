import ReleaseSearch.Data.Basic
import ReleaseSearch.Failure

/-!
# Correlation

Every entry that is written while something is going on can carry the id of the search, the name of
the indexer and further values.  A context sets some of them when it is entered and brings back what
was there before when it is left.
-/

namespace ReleaseSearch

/-- What entries carry. -/
structure Correlation where
  searchId : Option String := none
  indexer : Option String := none
  extra : List (String × Data) := []
  deriving Inhabited

namespace Correlation

/-- Sets the value of a key, at its place if it is there. -/
def put (key : String) (value : Data) : List (String × Data) → List (String × Data)
  | [] => [(key, value)]
  | entry :: rest =>
    if entry.1 == key then (key, value) :: rest else entry :: put key value rest

/-- Entries with further ones, which count more. -/
def merge (entries more : List (String × Data)) : List (String × Data) :=
  more.foldl (fun all entry => put entry.1 entry.2 all) entries

def add (c : Correlation) (more : List (String × Data)) : Correlation :=
  { c with extra := merge c.extra more }

def clear (_ : Correlation) : Correlation := {}

def filled? (s : Option String) : Option String := s.filter (· != "")

def fields (c : Correlation) (withExtra : Bool) : List (String × Data) :=
  ((filled? c.searchId).map fun s => ("search_id", Data.text s)).toList
    ++ ((filled? c.indexer).map fun s => ("indexer", Data.text s)).toList
    ++ (if withExtra && !c.extra.isEmpty then [("context", Data.object c.extra)] else [])

/-! ## Contexts -/

/-- What a part of the correlation was before it was set. -/
inductive Former where
  | searchId (value : Option String)
  | indexer (value : Option String)
  | extra (value : List (String × Data))

def restore (c : Correlation) : Former → Correlation
  | .searchId value => { c with searchId := value }
  | .indexer value => { c with indexer := value }
  | .extra value => { c with extra := value }

/-- The values of a context and what it has to bring back, the latest first. -/
structure Context where
  searchId : Option String := none
  indexer : Option String := none
  extra : List (String × Data) := []
  former : List Former := []

namespace Context

/-- The names that are taken when a context is made; further values have other names. -/
def ownNames : List String := ["self", "search_id", "indexer"]

/-- A context that sets the given values when it is entered. -/
def ofValues (searchId indexer : Option String) (extra : List (String × Data)) :
    Except Breakdown Context :=
  if extra.any fun entry => ownNames.contains entry.1 then .error .badKind
  else .ok { searchId := searchId, indexer := indexer, extra := extra }

/-- Sets the values of a context that are not empty. -/
def enter (context : Context) (c : Correlation) : Context × Correlation :=
  let (context, c) :=
    match filled? context.searchId with
    | some id =>
      ({ context with former := .searchId c.searchId :: context.former },
        { c with searchId := some id })
    | none => (context, c)
  let (context, c) :=
    match filled? context.indexer with
    | some name =>
      ({ context with former := .indexer c.indexer :: context.former },
        { c with indexer := some name })
    | none => (context, c)
  if context.extra.isEmpty then (context, c)
  else
    ({ context with former := .extra c.extra :: context.former },
      { c with extra := context.extra })

/-- Brings back all that a context has set. -/
def leave (context : Context) (c : Correlation) : Context × Correlation :=
  ({ context with former := [] }, context.former.foldl restore c)

/-- Does something within a context. -/
def within (context : Context) (c : Correlation) (body : Correlation → α × Correlation) :
    α × Correlation :=
  let (context, inner) := context.enter c
  let (a, inner) := body inner
  (a, (context.leave inner).2)

end Context

end Correlation

end ReleaseSearch
