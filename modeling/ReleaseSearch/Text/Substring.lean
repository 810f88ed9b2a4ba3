/-!
# Substrings

Searching, replacing and splitting over lists of letters.  `replaceAll` replaces the occurrences
found from left to right without overlap; an empty pattern occurs before every letter and at the
end.
-/

namespace ReleaseSearch.Text

variable {α : Type} [DecidableEq α]

/-- The rest of `cs` after `start`, if `cs` starts so. -/
def dropStart? : List Char → List Char → Option (List Char)
  | [], cs => some cs
  | _ :: _, [] => none
  | p :: ps, c :: cs => if p = c then dropStart? ps cs else none

def occursIn (part : List α) : List α → Bool
  | [] => part.isEmpty
  | c :: cs => part.isPrefixOf (c :: cs) || occursIn part cs

/-- Replaces the occurrences of a non-empty `old`, after passing over `skip` letters that an
occurrence has already used. -/
def replaceFrom (old new : List α) : Nat → List α → List α
  | _, [] => []
  | skip + 1, _ :: cs => replaceFrom old new skip cs
  | 0, c :: cs =>
    if old.isPrefixOf (c :: cs) then new ++ replaceFrom old new (old.length - 1) cs
    else c :: replaceFrom old new 0 cs

/-- Replaces every occurrence of `old` in `cs` by `new`. -/
def replaceAll (old new cs : List α) : List α :=
  if old.isEmpty then new ++ cs.flatMap (fun c => c :: new) else replaceFrom old new 0 cs

/-- Replaces every occurrence of `old` in `s` by `new`. -/
def replace (old new s : String) : String :=
  String.ofList (replaceAll old.toList new.toList s.toList)

def contains (part s : String) : Bool := occursIn part.toList s.toList

/-- The pieces of `cs` between the separators `sep`; there is always at least one. -/
def splitOn (sep : Char) : List Char → List (List Char)
  | [] => [[]]
  | c :: cs =>
    if c = sep then [] :: splitOn sep cs
    else
      match splitOn sep cs with
      | [] => [[c]]
      | piece :: pieces => (c :: piece) :: pieces

/-- The pieces of `s` between the separators `sep`. -/
def pieces (sep : Char) (s : String) : List String :=
  (splitOn sep s.toList).map String.ofList

/-- The parts of `cs` before and after the first `sep`, if there is one. -/
def cut? (sep : Char) : List Char → Option (List Char × List Char)
  | [] => none
  | c :: cs =>
    if c = sep then some ([], cs)
    else (cut? sep cs).map fun p => (c :: p.1, p.2)

def take (n : Nat) (s : String) : String := String.ofList (s.toList.take n)

end ReleaseSearch.Text
