import ReleaseSearch.Data.Basic
import ReleaseSearch.Failure
import ReleaseSearch.Text.Substring

/-!
# Paths into data

A path names the keys that lead to a value, with points between them, after a dollar sign.  A text
without the dollar sign is a single key.
-/

namespace ReleaseSearch.Results.Path

open Text

def keys (path : String) : List String :=
  match path.toList with
  | ['$'] => []
  | ['$', '.'] => []
  | '$' :: '.' :: rest => (splitOn '.' rest).map String.ofList
  | _ => [path]

inductive Fault where
  /-- A key is missing, or its value is null. -/
  | missing (key : String)
  /-- A key is looked up in what is no map. -/
  | notMap (key : String)
  deriving DecidableEq, Repr

def step (value : Data) (key : String) : Except Fault Data :=
  match value with
  | .map es =>
    match Data.find? key es with
    | none | some .null => .error (.missing key)
    | some d => .ok d
  | _ => .error (.notMap key)

def follow (value : Data) (keys : List String) : Except Fault Data := keys.foldlM step value

def Fault.failure (path : String) : Fault → Failure
  | .missing key =>
    { kind := .pathNotFound
      message := "Path '" ++ path ++ "' not found (missing '" ++ key ++ "')" }
  | .notMap key =>
    { kind := .invalidPath
      message := "Cannot read '" ++ key ++ "' of a non-object value in path '" ++ path ++ "'" }

def navigate (value : Data) (path : String) : Except Failure Data :=
  (follow value (keys path)).mapError (Fault.failure path)

end ReleaseSearch.Results.Path
