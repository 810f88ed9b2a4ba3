import ReleaseSearch.Results.Row
import ReleaseSearch.Results.Path
import ReleaseSearch.Data.Json
import ReleaseSearch.Html.Encoding
import ReleaseSearch.Selector.Match
import ReleaseSearch.Selector.Reader

/-!
# Reading results

An answer is either a page, in which selectors show the rows and the fields, or data, in which a
path and keys do.
-/

namespace ReleaseSearch.Results

open Text Html Selector Decimal

inductive Body where
  | absent
  | text (s : String)
  | bytes (bs : List UInt8)

inductive Form where
  | page
  | data
  deriving DecidableEq, Repr

def Form.name : Form → String
  | .page => "html"
  | .data => "json"

/-- Whether a text could be data: it starts with a bracket. -/
def looksLikeData : List Char → Bool
  | c :: _ => c == '\x7b' || c == '['
  | [] => false

/-- The kind of a text: data if it looks so and can be read. -/
def formOfText (cs : List Char) : Form :=
  let trimmed := stripBy isBlank cs
  if looksLikeData trimmed && (Json.read true trimmed).isSome then .data else .page

def Body.form : Body → Form
  | .absent => .page
  | .text s => formOfText s.toList
  | .bytes bs => formOfText (Utf8.decodeLossy bs)

def rowSelector (d : Definition) : Except Failure RowSelector :=
  match d.rowSelector with
  | some r => .ok r
  | none => .error (.configuration ("No row selector configured for indexer '" ++ d.id ++ "'"))

def tagName (d : Definition) (name : Option String) : String :=
  match name with
  | some name => if name = "" then d.displayName else name
  | none => d.displayName

/-- Turns every trouble that is no failure into one. -/
def guarded (form indexer : String) (r : Run α) : Run α := do
  match ← Run.attempt r with
  | .ok a => return a
  | .error (.failure f) => Run.fail f
  | .error trouble => do
    Run.note .error source (form ++ " parsing error for " ++ indexer ++ ": " ++ trouble.text)
    Run.fail (.search ("Failed to parse " ++ form ++ " response: " ++ trouble.text))

def noteKept (form indexer : String) (kept all : Nat) : Run Unit :=
  Run.note .debug source (indexer ++ ": " ++ intText kept ++ "/" ++ intText all ++ " " ++ form
    ++ " rows kept")

/-! ## Pages -/

/-- What a selector shows under a place. -/
def selected (place : Place) (selector : String) : Except Breakdown (List Place) :=
  match Choices.read selector with
  | none => .error (.badValue none)
  | some choices => .ok (select choices place)

/-- The value that some elements hold: their text, or the first such attribute. -/
def valueOf (field : FieldSelector) (places : List Place) : Option Line :=
  match field.attributeName with
  | none =>
    if places.isEmpty then none
    else some (Line.ofSigns (places.flatMap (·.element.text))).strip
  | some name => (places.findSome? (·.element.attribute? name)).map fun value => strip value

/-- The value that the selector of a field shows in a row of a page. -/
def pageValue (row : Place) (field : FieldSelector) : Run (Option Line) := do
  let places ← Run.ofExcept ((selected row field.selector).mapError .breakdown)
  return valueOf field places

def pageRows [Pattern.Library] (fields : List (String × FieldSelector)) :
    List Place → Run (List Row)
  | [] => pure []
  | place :: rest => do
    let row ← readRow (pageValue place) fields
    if !row.isComplete then
      let names := (row.map (·.1)).mergeSort fun a b => a ≤ b
      Run.note .debug source ("Skipping row without title/download: "
        ++ (Data.list (names.map .text)).quoted)
    let others ← pageRows fields rest
    return if row.isComplete then row :: others else others

def readPage : Body → Except Breakdown Element
  | .absent => .error .badKind
  | .text s => (Html.Source.text s.toList).read.mapError fun _ => .badValue none
  | .bytes bs => (Html.Source.bytes bs).read.mapError fun _ => .badValue none

/-- The releases of a page, in which `rowsAt` says where the rows are. -/
def pageReleases [Pattern.Library] (d : Definition) (rowsAt : RowSelector) (indexer : String)
    (body : Body) (extract : Quality.Extractor) : Run (List Release) := do
  let page ← Run.ofExcept ((readPage body).mapError .breakdown)
  let all ← Run.ofExcept ((selected (.top page) rowsAt.selector).mapError .breakdown)
  let places := all.drop rowsAt.skipCount
  let rows ← pageRows d.fieldSelectors places
  noteKept "HTML" indexer rows.length places.length
  toReleases indexer extract rows

def ofPage [Pattern.Library] (d : Definition) (body : Body) (name : Option String)
    (extract : Quality.Extractor) : Run (List Release) := do
  let rowsAt ← Run.ofExcept ((rowSelector d).mapError .failure)
  let indexer := tagName d name
  guarded "HTML" indexer (pageReleases d rowsAt indexer body extract)

/-! ## Data -/

/-- The text of a field's value: a text itself or a number; nothing else has one. -/
def plainValue? : Data → Option String
  | .text s => some s
  | .int n => some (intText n)
  | .float x => some (floatText x)
  | _ => none

/-- The value that the key of a field shows in a row of data. -/
def dataValue (row : Entries) (field : FieldSelector) : Run (Option Line) :=
  pure (((Data.find? field.selector row).bind plainValue?).map .whole)

def dataRows [Pattern.Library] (fields : List (String × FieldSelector)) : List Data → Run (List Row)
  | [] => pure []
  | .map es :: rest => do
    let row ← readRow (dataValue es) fields
    let others ← dataRows fields rest
    return if row.isComplete then row :: others else others
  | d :: rest => do
    Run.note .debug source ("Skipping non-object JSON row: " ++ d.kindName)
    dataRows fields rest

/-- The rows that a value stands for: its items, or the value itself. -/
def rowsOf : Data → List Data
  | .list items => items
  | d => [d]

def readData : Body → Except Trouble Data
  | .absent => .error (.breakdown .badKind)
  | .text s => orRefuse (Json.read true s.toList)
  | .bytes bs => orRefuse (Json.readBytes bs)
where
  /-- The value, or the failure to read one. -/
  orRefuse : Option Data → Except Trouble Data
    | some d => .ok d
    | none => .error (.failure (.search ("Invalid JSON: " ++ hiddenText)))

def dataReleases [Pattern.Library] (d : Definition) (indexer : String) (found : Data)
    (extract : Quality.Extractor) : Run (List Release) := do
  let rows ← dataRows d.fieldSelectors (rowsOf found)
  noteKept "JSON" indexer rows.length (rowsOf found).length
  toReleases indexer extract rows

def ofData [Pattern.Library] (d : Definition) (body : Body) (name : Option String)
    (extract : Quality.Extractor) : Run (List Release) := do
  let rowsAt ← Run.ofExcept ((rowSelector d).mapError .failure)
  let indexer := tagName d name
  let data ← Run.ofExcept (readData body)
  let found ← Run.ofExcept ((Path.navigate data rowsAt.selector).mapError .failure)
  guarded "JSON" indexer (dataReleases d indexer found extract)

def ofBody [Pattern.Library] (d : Definition) (body : Body) (name : Option String)
    (extract : Quality.Extractor) : Run (List Release) :=
  match body.form with
  | .data => ofData d body name extract
  | .page => ofPage d body name extract

end ReleaseSearch.Results
