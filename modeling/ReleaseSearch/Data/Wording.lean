import ReleaseSearch.Data.Basic
import ReleaseSearch.Decimal.Read
import ReleaseSearch.Failure

/-!
# Values in words

A value of any kind may become part of a text.  A whole number is written out only if it has no
more than `digitLimit` digits; a value that holds a longer one cannot be put in words.
-/

namespace ReleaseSearch.Data

open Decimal

mutual

/-- Whether a value can be put in words: no whole number in it has too many digits. -/
def isWritable : Data → Bool
  | .int n => n.natAbs < Nat.pow 10 digitLimit
  | .list items | .set items => allWritable items
  | .map entries => entriesWritable entries
  | _ => true

/-- Whether all of some values can be put in words. -/
def allWritable : List Data → Bool
  | [] => true
  | item :: rest => isWritable item && allWritable rest

/-- Whether the keys and values of a map can be put in words. -/
def entriesWritable : List (Data × Data) → Bool
  | [] => true
  | (key, value) :: rest => isWritable key && isWritable value && entriesWritable rest

end

def inWords (d : Data) : Except Breakdown String :=
  if d.isWritable then .ok d.display else .error (.badValue none)

end ReleaseSearch.Data
