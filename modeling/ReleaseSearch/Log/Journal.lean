import ReleaseSearch.Log.Basic
import ReleaseSearch.Log.Correlation

/-!
# Journals

A journal is what has been written while something is going on, together with the correlation that
is there at the moment.  Each entry is stamped with the correlation when it is written, so that an
entry shows the context within which it was written, whatever becomes of the correlation later.
-/

namespace ReleaseSearch

/-- An entry, and the correlation that was there when it was written. -/
structure Stamped where
  entry : Entry
  correlation : Correlation

/-- What has been written, oldest first, and the correlation of what is written next. -/
structure Journal where
  correlation : Correlation := {}
  written : List Stamped := []

namespace Journal

def write (j : Journal) (entry : Entry) : Journal :=
  { j with written := j.written ++ [⟨entry, j.correlation⟩] }

def writeAll (j : Journal) (entries : List Entry) : Journal := entries.foldl write j

/-- Does something within a context. -/
def within (context : Correlation.Context) (j : Journal) (body : Journal → α × Journal) :
    α × Journal :=
  let ((a, written), correlation) := context.within j.correlation fun inner =>
    let (a, done) := body { j with correlation := inner }
    ((a, done.written), done.correlation)
  (a, ⟨correlation, written⟩)

end Journal

end ReleaseSearch
