import ReleaseSearch.Definition.Written

/-!
# What is wrong with a written definition

`Definition.findings` looks at the shape of a written definition and says all that is wrong with
it.  It looks no further when a required part is missing.
-/

namespace ReleaseSearch.Definition

open Text Decimal

def requiredParts : List String := ["id", "links", "search"]

def requiredFields : List String := ["title", "download"]

def pathMethods : List String := ["get", "post"]

def delayUnits : List String := Delay.secondsUnits ++ Delay.millisecondsUnits

def listText (items : List String) : String := (Data.list (items.map .text)).quoted

def linkFindings (links : Data) : List String :=
  let isLink : Data → Bool
    | .text s => s != ""
    | _ => false
  match links with
  | .list items => if items.all isLink then [] else ["'links' must be a list of URLs"]
  | _ => ["'links' must be a list of URLs"]

/-- Whether a value is a number that is not negative. -/
def isNonNegative : Data → Bool
  | .int n => 0 ≤ n
  | .float x => !(x < 0)
  | _ => false

def delayFindings : Data → List String
  | .null => []
  | delay => if isNonNegative delay then [] else ["'request_delay' must be a non-negative number"]

def unitFindings : Data → Except Breakdown (List String)
  | .null => .ok []
  | unit => do
    if delayUnits.contains (← Delay.unitName unit) then return []
    else
      return ["Invalid request_delay_unit: '" ++ unit.display ++ "'. Valid units: "
        ++ listText delayUnits]

def pathFinding? (index : Nat) : Data → Except Breakdown (Option String)
  | .text _ => .ok none
  | .map es =>
    let value (key : String) : Data := (Data.find? key es).getD .null
    let method := value "method"
    if !(value "path").isPresent then
      .ok (some ("Search path #" ++ intText index ++ " is missing 'path'"))
    else if method.isPresent then do
      let name ← method.inWords
      if pathMethods.contains (lower name) then return none
      else
        return some ("Invalid method for search path #" ++ intText index ++ ": '" ++ name
          ++ "'. Valid methods: " ++ listText pathMethods)
    else .ok none
  | _ => .ok (some ("Search path #" ++ intText index ++ " is missing 'path'"))

def pathFindings (search : Data) : Except Breakdown (List String) := do
  let paths ← contents (← writtenPaths search)
  if paths.isEmpty then return ["Missing required search field: 'paths'"]
  let found ← paths.zipIdx.mapM fun (path, index) => pathFinding? index path
  return found.filterMap fun finding => finding

def rowFindings (search : Data) : List String :=
  match (search.get? "rows").getD .null with
  | .map es =>
    let value (key : String) : Data := (Data.find? key es).getD .null
    if !(value "selector").isPresent then ["Missing required search field: 'rows.selector'"]
    else
      match value "after" with
      | .null => []
      | .int n => if 0 ≤ n then [] else ["'rows.after' must be a non-negative integer"]
      | _ => ["'rows.after' must be a non-negative integer"]
  | _ => ["Missing required search field: 'rows.selector'"]

def hasField (fields : Entries) (name : String) : Bool :=
  match Data.find? name fields with
  | none => false
  | some (.map es) => ((Data.find? "selector" es).getD .null).isPresent
  | some d => d.isPresent

def fieldFindings (name : Data) : Data → Except Breakdown (List String)
  | .text _ => .ok []
  | .map es =>
    match orElse ((Data.find? "filters" es).getD .null) (.list []) with
    | .list specs => do
      let problems ← specs.mapM Filter.problems
      problems.flatten.mapM fun problem => do
        return "Field '" ++ (← name.inWords) ++ "': " ++ problem
    | _ => do return ["Field '" ++ (← name.inWords) ++ "': 'filters' must be a list"]
  | _ => do return ["Field '" ++ (← name.inWords) ++ "' must be a selector string or a mapping"]

def allFieldFindings (search : Data) : Except Breakdown (List String) :=
  match (search.get? "fields").getD .null with
  | .map fields => do
    let missing := (requiredFields.filter (!hasField fields ·)).map fun name =>
      "Missing required result field: '" ++ name ++ "'"
    let found ← fields.mapM fun field => fieldFindings field.1 field.2
    return missing ++ found.flatten
  | _ => .ok ["Missing required search field: 'fields'"]

def searchFindings (search : Data) : Except Breakdown (List String) :=
  match search with
  | .map _ => do
    let ofPaths ← pathFindings search
    let ofFields ← allFieldFindings search
    return ofPaths ++ rowFindings search ++ ofFields
  | _ => .ok ["'search' must be a mapping"]

/-- All that is wrong with a written definition. -/
def findings (raw : Data) : Except Breakdown (List String) :=
  match raw with
  | .map _ =>
    let value (key : String) : Data := (raw.get? key).getD .null
    let missing := requiredParts.filter fun key => !(value key).isPresent
    if missing.isEmpty then do
      let ofUnit ← unitFindings (value "request_delay_unit")
      let ofSearch ← searchFindings (value "search")
      return linkFindings (value "links") ++ delayFindings (value "request_delay") ++ ofUnit
        ++ ofSearch
    else .ok (missing.map fun key => "Missing required field: '" ++ key ++ "'")
  | _ => .ok ["Definition must be a mapping"]

/-- The definition that is written, if nothing is wrong with it. -/
def load (settings : Settings) (raw : Data) : Run Definition := do
  match ← lift (findings raw) with
  | [] => ofWritten settings raw
  | texts =>
    let id ← lift (((raw.get? "id").bind Data.present?).elim (.ok "<unknown>") Data.inWords)
    Run.fail
      { kind := .definition (.findings texts)
        message := "Invalid definition for indexer '" ++ id ++ "'" }

end ReleaseSearch.Definition
