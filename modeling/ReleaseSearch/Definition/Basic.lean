import ReleaseSearch.Filter.Spec
import ReleaseSearch.Schema.Check

/-!
# Definitions

A definition says all that is special about an indexer: where a search is sent, how the request
looks, and where in the answer the results are.
-/

namespace ReleaseSearch

open Text Schema

inductive Method where
  | get
  | post
  deriving DecidableEq, Repr, Inhabited

namespace Method

/-- The method that a value asks for: `post` in any case, and everything else is a `get`. -/
def ofData : Data → Method
  | .text s => if lower (strip s) == "post" then .post else .get
  | _ => .get

def name : Method → String
  | .get => "GET"
  | .post => "POST"

end Method

/-- A template for the path of a search and the categories that it serves. -/
structure SearchPath where
  template : String
  method : Method := .get
  categories : List Int := []
  deriving DecidableEq, Repr

namespace SearchPath

def read (es : Entries) : Check SearchPath :=
  SearchPath.mk <$> need es "template" text
    <*> take es "method" .get (fun d => .fits (Method.ofData d))
    <*> take es "categories" [] (tuple int)

def toData (p : SearchPath) : Data :=
  .object [("template", .text p.template), ("method", .text p.method.name),
    ("categories", .list (p.categories.map .int))]

end SearchPath

/-- Where the rows of an answer are, and how many of them come before the results. -/
structure RowSelector where
  selector : String
  skipCount : Nat := 0
  deriving DecidableEq, Repr

namespace RowSelector

def read (es : Entries) : Check RowSelector :=
  RowSelector.mk <$> need es "selector" filledText <*> take es "skip_count" 0 natural

def toData (r : RowSelector) : Data :=
  .object [("selector", .text r.selector), ("skip_count", .int r.skipCount)]

end RowSelector

/-- Where the value of a field is in a row, and what is done to it. -/
structure FieldSelector where
  selector : String
  /-- The attribute that holds the value; the text does if there is none. -/
  attributeName : Option String := none
  filters : List Filter := []
  deriving DecidableEq, Repr

namespace FieldSelector

/-- Builds the filters that are written in a record.  What cannot be gone through is a breakdown;
a filter that cannot be built is a problem. -/
def readFilters (es : Entries) : Run (Check (List Filter)) :=
  match Data.find? "filters" es with
  | none => pure (.fits [])
  | some d =>
    if !d.isPresent then pure (.fits [])
    else
      match d.contents? with
      | none => Run.breakDown .badKind
      | some specs => do
        match ← ExceptT.lift (Filter.buildAll specs).run with
        | .ok filters => return .fits filters
        | .error (.badValue problem) =>
          return (Check.fail (.rule (problem.getD hiddenText))).under (.key "filters")
        | .error b => Run.breakDown b

/-- Reads a field selector from a record, or from the selector alone. -/
def read : Data → Run (Check FieldSelector)
  | .text selector => pure (.fits { selector := selector })
  | .map es => do
    let filters ← readFilters es
    return FieldSelector.mk <$> need es "selector" text
      <*> take es "attribute" none (nullable text) <*> filters
  | _ => pure (.fail .notRecord)

def readEntries : Entries → Run (Check (List (String × FieldSelector)))
  | [] => pure (.fits [])
  | (key, value) :: rest => do
    let field ← read value
    let others ← readEntries rest
    return List.cons <$> (Prod.mk <$> entryKey key <*> field.under (stepTo key)) <*> others

def toData (f : FieldSelector) : Data :=
  .object [("selector", .text f.selector), ("attribute", .optional .text f.attributeName),
    ("filters", .list (f.filters.map Filter.toData))]

end FieldSelector

/-- All that is special about an indexer. -/
structure Definition where
  id : String
  name : String := ""
  /-- The addresses of the site, the first one counting. -/
  baseUrls : List String := []
  searchPaths : List SearchPath := []
  rowSelector : Option RowSelector := none
  fieldSelectors : List (String × FieldSelector) := []
  headers : List (String × String) := []
  /-- The parameters of a search. -/
  inputs : List (String × Data) := []
  /-- How many seconds have to pass between requests. -/
  requestDelay : Option Float := none
  followRedirect : Bool := false

namespace Definition

def displayName (d : Definition) : String := if d.name = "" then d.id else d.name

def canonicalUrl? (d : Definition) : Option String := d.baseUrls.head?

/-- Reads the field selectors of a record.  Absent and empty values stand for none. -/
def readFields (es : Entries) : Run (Check (List (String × FieldSelector))) :=
  match Data.find? "field_selectors" es with
  | none => pure (.fits [])
  | some d =>
    match d with
    | .map fields => (·.under (.key "field_selectors")) <$> FieldSelector.readEntries fields
    | d => if d.isPresent then Run.breakDown .noPart else pure (.fits [])

def readEntries (es : Entries) : Run (Check Definition) := do
  let fields ← readFields es
  return Definition.mk <$> need es "id" filledText <*> take es "name" "" text
    <*> take es "base_urls" [] (tuple text)
    <*> take es "search_paths" [] (tuple (record SearchPath.read))
    <*> take es "row_selector" none (nullable (record RowSelector.read))
    <*> fields
    <*> take es "headers" [] (tuple (pair text text))
    <*> take es "inputs" [] freeDictionary
    <*> take es "request_delay" none (nullable floatFromZero)
    <*> take es "follow_redirect" false bool

def ofEntries (es : Entries) : Run Definition := do
  match ← readEntries es with
  | .fits d => return d
  | .fails problems => throw (.unfit problems)

def toData (d : Definition) : Data :=
  .object [("id", .text d.id), ("name", .text d.name),
    ("base_urls", .list (d.baseUrls.map .text)),
    ("search_paths", .list (d.searchPaths.map SearchPath.toData)),
    ("row_selector", .optional RowSelector.toData d.rowSelector),
    ("field_selectors", .object (d.fieldSelectors.map fun f => (f.1, f.2.toData))),
    ("headers", .list (d.headers.map fun h => .list [.text h.1, .text h.2])),
    ("inputs", .object d.inputs),
    ("request_delay", .optional .float d.requestDelay),
    ("follow_redirect", .bool d.followRedirect)]

end Definition

end ReleaseSearch
