import ReleaseSearch.Yaml.Node

/-!
# Reading YAML

`Yaml.read` reads a document of one of the standard kinds: mappings, lists, sets, texts, numbers,
dates and truth values.  A merge key stands for the entries of other mappings, which come before
the mapping's own.
-/

namespace ReleaseSearch.Yaml

/-- The name of a kind without what the standard names start with. -/
def shortKind (kind : String) : Option String :=
  (Text.dropStart? standard.toList kind.toList).map String.ofList

mutual

/-- The entries of a mapping after those that its merge keys stand for. -/
def mergedEntries : List (Node × Node) → Option (List (Node × Node) × List (Node × Node))
  | [] => some ([], [])
  | (key, value) :: rest => do
    let (merged, own) ← mergedEntries rest
    if shortKind key.kind == some "merge" then
      let here ← mergeSource value
      return (here ++ merged, own)
    else
      let key :=
        match key with
        | .scalar kind text =>
          if shortKind kind == some "value" then .scalar (standard ++ "str") text
          else .scalar kind text
        | other => other
      return (merged, (key, value) :: own)

/-- The entries of the mapping or the mappings that a merge key names. -/
def mergeSource : Node → Option (List (Node × Node))
  | .mapping _ entries => (mergedEntries entries).map fun p => p.1 ++ p.2
  | .sequence _ items => mergeSources items
  | .scalar .. => none

/-- The entries of several mappings, those of the last one first. -/
def mergeSources : List Node → Option (List (Node × Node))
  | [] => some []
  | .mapping _ entries :: rest => do
    let (merged, own) ← mergedEntries entries
    let more ← mergeSources rest
    return more ++ (merged ++ own)
  | _ :: _ => none

end

/-- The entries of a mapping, its merge keys resolved. -/
def flatEntries (entries : List (Node × Node)) : Except Fault (List (Node × Node)) :=
  match mergedEntries entries with
  | some (merged, own) => .ok (merged ++ own)
  | none => .error .malformed

mutual

def valueOf : Nat → Node → Except Fault Data
  | 0, _ => .error .malformed
  | fuel + 1, node =>
    match node with
    | .scalar kind text => scalarValue kind text
    | .sequence kind items =>
      match shortKind kind with
      | some "seq" => (items.mapM (valueOf fuel)).map Data.list
      | some "omap" | some "pairs" =>
        (items.mapM fun (item : Node) =>
          match item with
          | .mapping _ [(key, value)] => do
            return Data.list [← valueOf fuel key, ← valueOf fuel value]
          | _ => Except.error Fault.malformed).map Data.list
      | _ => .error .malformed
    | .mapping kind entries =>
      match shortKind kind with
      | some "map" => do return Data.ofEntries (← entriesOf fuel (← flatEntries entries))
      | some "set" => do
        match Data.ofEntries (← entriesOf fuel (← flatEntries entries)) with
        | .map entries => return .set (entries.map (·.1))
        | other => return other
      | _ => .error .malformed

def entriesOf : Nat → List (Node × Node) → Except Fault Entries
  | 0, _ => .error .malformed
  | _ + 1, [] => .ok []
  | fuel + 1, (key, value) :: rest => do
    let key ← valueOf fuel key
    if !key.isKey then .error .malformed
    else
      let value ← valueOf fuel value
      return (key, value) :: (← entriesOf fuel rest)

end

mutual

def Node.size : Node → Nat
  | .scalar .. => 1
  | .sequence _ items => 1 + Node.sizeAll items
  | .mapping _ entries => 1 + Node.sizeEntries entries

def Node.sizeAll : List Node → Nat
  | [] => 0
  | item :: rest => item.size + Node.sizeAll rest

/-- The number of parts of the entries of a mapping. -/
def Node.sizeEntries : List (Node × Node) → Nat
  | [] => 0
  | (key, value) :: rest => 1 + key.size + value.size + Node.sizeEntries rest

end

/-- Reads a text that holds one document or none. -/
def read (text : String) : Except Fault Data :=
  match (Token.read text.toList).bind Node.ofTokens with
  | none => .error .malformed
  | some none => .ok .null
  | some (some node) => valueOf (4 * node.size + 4) node

end ReleaseSearch.Yaml
