import ReleaseSearch.Definition.Basic
import ReleaseSearch.Definition.Delay
import ReleaseSearch.Settings

/-!
# Definitions as they are written

People write definitions with many shorthands: one path instead of a list, a bare selector instead
of a record, headers as a map or as pairs.  `Definition.ofWritten` brings a written definition
into the form of a record and reads that.
-/

namespace ReleaseSearch.Definition

open Text Decimal

/-- A computation of this module as a run. -/
def lift (e : Except Breakdown α) : Run α := Run.ofExcept (e.mapError .breakdown)

/-- The value of a key, or null; only a map has keys. -/
def part (d : Data) (key : String) : Except Breakdown Data :=
  match d with
  | .map es => .ok ((Data.find? key es).getD .null)
  | _ => .error .noPart

/-- What a value holds; nothing if it is absent. -/
def contents (d : Data) : Except Breakdown (List Data) :=
  if !d.isPresent then .ok []
  else
    match d.contents? with
    | some items => .ok items
    | none => .error .badKind

def orElse (d other : Data) : Data := if d.isPresent then d else other

/-! ## Headers -/

/-- The name of the header that is never left out. -/
def userAgentName : String := "User-Agent"

/-- A header that is written as a pair or as a map with a name and a value. -/
def headerOf : Data → Except Breakdown (String × String)
  | .map es =>
    match Data.find? "name" es with
    | none => .error .noEntry
    | some name => do
      let name ← name.inWords
      match Data.find? "value" es with
      | none => .error .noEntry
      | some value => return (name, ← value.inWords)
  | d =>
    match d.contents? with
    | none => .error .badKind
    | some [name, value] => do return (← name.inWords, ← value.inWords)
    | some _ => .error (.badValue none)

/-- The values of a header in a map; a list stands for several. -/
def headerValues : Data → List Data
  | .list values => values
  | value => [value]

/-- The headers that are written as the entries of a map. -/
def headersOfEntries (es : Entries) : Except Breakdown (List (String × String)) :=
  (es.flatMap fun entry => (headerValues entry.2).map (entry.1, ·)).mapM fun header => do
    return (← header.1.inWords, ← header.2.inWords)

def writtenHeaders : Data → Except Breakdown (List (String × String))
  | .map es => headersOfEntries es
  | d => (contents d).bind (·.mapM headerOf)

/-- Whether a header is the one that is never left out. -/
def isUserAgent (header : String × String) : Bool := lower header.1 == "user-agent"

/-- Adds the header that is never left out, unless it is there. -/
def withUserAgent (settings : Settings) (headers : List (String × String)) :
    List (String × String) :=
  if headers.any isUserAgent then headers
  else headers ++ [(userAgentName, settings.userAgent)]

/-- The headers of a definition, in the order in which they are written. -/
def normalizeHeaders (settings : Settings) (d : Data) :
    Except Breakdown (List (String × String)) :=
  (withUserAgent settings) <$> writtenHeaders d

/-! ## Paths and fields -/

/-- The paths that are written: a list of them or a single one. -/
def writtenPaths (search : Data) : Except Breakdown Data := do
  let paths ← part search "paths"
  let single ← part search "path"
  match paths with
  | .null => return if single.isPresent then .list [single] else .list []
  | paths => return orElse paths (.list [])

def normalizePath : Data → Except Breakdown Data
  | .text template => .ok (.object [("template", .text template)])
  | .map es =>
    let value (key : String) : Data := (Data.find? key es).getD .null
    .ok (.object [("template", (Data.find? "path" es).getD (.text "")),
      ("method", orElse (value "method") (.text "get")),
      ("categories", orElse (value "categories") (.list []))])
  | _ => .error .noPart

def normalizePaths (search : Data) : Except Breakdown Data := do
  let paths ← contents (← writtenPaths search)
  return .list (← paths.mapM normalizePath)

/-- A field in the form of a record; a field without a selector is left out. -/
def normalizeField (name : Data) : Data → Run (Option Data)
  | .text selector => pure (some (.object [("selector", .text selector)]))
  | .map es => do
    let value (key : String) : Data := (Data.find? key es).getD .null
    if (value "selector").isPresent then
      return some (.object [("selector", value "selector"), ("attribute", value "attribute"),
        ("filters", orElse (value "filters") (.list []))])
    else
      let name ← lift name.inWords
      Run.note .warning Delay.source
        ("Field '" ++ name ++ "' has no selector and will be ignored")
      return none
  | _ => Run.breakDown .noPart

def normalizeFields : Entries → Run Entries
  | [] => pure []
  | (name, field) :: rest => do
    let found ← normalizeField name field
    let others ← normalizeFields rest
    match found with
    | some record => return (name, record) :: others
    | none => return others

/-- Where the rows are, in the form of a record; null if nothing is said. -/
def normalizeRows (rows : Data) : Except Breakdown Data := do
  let selector ← part rows "selector"
  let after ← part rows "after"
  if selector.isPresent then
    return .object [("selector", selector), ("skip_count", orElse after (.int 0))]
  else return .null

/-- An entry that is written as a pair. -/
def entryOf (d : Data) : Except Breakdown (Data × Data) :=
  match d.contents? with
  | none => .error .badKind
  | some [key, value] => if key.isKey then .ok (key, value) else .error .badKind
  | some _ => .error (.badValue none)

/-- The parameters that are written: a map or a list of pairs. -/
def normalizeInputs (d : Data) : Except Breakdown Data :=
  match d with
  | .map es => .ok (.map es)
  | d => do return .ofEntries (← (← contents d).mapM entryOf)

/-! ## The whole -/

/-- What a definition that cannot be read leads to; only what is out of place is a failure. -/
def readingTrouble (id : String) : Trouble → Trouble
  | .unfit problems => .failure (failureOf (.unfit problems))
  | .breakdown (.badValue text) => .failure (failureOf (.refused text))
  | trouble => trouble
where
  /-- The failure with a complaint. -/
  failureOf (complaint : Complaint) : Failure :=
    { kind := .definition complaint
      message := "Invalid definition for indexer '" ++ id ++ "'" }

/-- The record of a written definition, after its fields. -/
def recordOf (settings : Settings) (raw search rows : Data) (id : String) (fields : Entries) :
    Run Entries := do
  let name ← lift (part raw "name")
  let links ← lift ((part raw "links").bind contents)
  let paths ← lift (normalizePaths search)
  let rows ← lift (normalizeRows rows)
  let headers ← lift ((part search "headers").bind (normalizeHeaders settings))
  let inputs ← lift ((part search "inputs").bind normalizeInputs)
  let delay ← Delay.normalize (← lift (part raw "request_delay"))
    (← lift (part raw "request_delay_unit")) id
  let follow := (raw.get? "follow_redirect").or (raw.get? "followredirect")
  return [(.text "id", .text id), (.text "name", orElse name (.text id)),
    (.text "base_urls", .list links), (.text "search_paths", paths),
    (.text "row_selector", rows), (.text "field_selectors", .map fields),
    (.text "headers", .list (headers.map fun h => .list [.text h.1, .text h.2])),
    (.text "inputs", inputs), (.text "request_delay", .optional .float delay),
    (.text "follow_redirect", .bool (follow.any Data.isPresent))]

def ofWritten (settings : Settings) (raw : Data) : Run Definition := do
  let empty : Data := .map []
  let id ← lift ((raw.get? "id").elim (.ok "") Data.inWords)
  let search ← lift (part raw "search")
  let search := orElse search empty
  let rows ← lift (part search "rows")
  let rows := orElse rows empty
  let fields ← lift (part search "fields")
  match orElse fields empty with
  | .map es =>
    let fields ← normalizeFields es
    let outcome ← Run.attempt (do ofEntries (← recordOf settings raw search rows id fields))
    Run.ofExcept (outcome.mapError (readingTrouble id))
  | _ => Run.breakDown .noPart

end ReleaseSearch.Definition
