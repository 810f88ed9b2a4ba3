import ReleaseSearch.Definition.Basic
import ReleaseSearch.Quality.Title
import ReleaseSearch.Release.Basic
import ReleaseSearch.Results.Value

/-!
# Rows

A row holds the values of the fields that were found in one result.  A row with a title and a
download link becomes a release, unless one of these is no text.
-/

namespace ReleaseSearch.Results

open Text Time

abbrev Row := List (String × Line)

namespace Row

def value? (row : Row) (name : String) : Option Line := (row.find? (·.1 == name)).map (·.2)

def filled? (row : Row) (name : String) : Option Line := (value? row name).filter (· != "")

/-- The fields without which there is no release. -/
def requiredNames : List String := ["title", "download"]

def isComplete (row : Row) : Bool := requiredNames.all fun name => (filled? row name).isSome

/-- The fields that a release has a place for. -/
def mappedNames : List String :=
  ["title", "download", "size", "seeders", "leechers", "details", "date", "category", "imdbid",
    "tmdbid"]

/-- What a release has no place for. -/
def extra (row : Row) : Row := row.filter fun entry => !mappedNames.contains entry.1

end Row

/-! ## Extraction -/

section Fields

variable [Pattern.Library]

/-- Applies the filters of a field to a value.  If a pattern cannot be used, the field has no
value. -/
def filteredValue (name : String) (field : FieldSelector) (value : Line) :
    Run (Option Line) := do
  match ← Run.attempt (Filter.applyAll field.filters value) with
  | .ok result => return some result
  | .error (.failure f) =>
    match f.kind with
    | .invalidPattern _ => do
      Run.note .debug source ("Dropping field '" ++ name ++ "': " ++ f.text)
      return none
    | _ => throw (.failure f)
  | .error trouble => throw trouble

/-- The value of one field, where `find` finds what its selector shows. -/
def fieldValue (find : FieldSelector → Run (Option Line)) (name : String)
    (field : FieldSelector) : Run (Option Line) := do
  match ← find field with
  | none => return none
  | some raw => filteredValue name field raw

def readRow (find : FieldSelector → Run (Option Line)) :
    List (String × FieldSelector) → Run Row
  | [] => pure []
  | (name, field) :: rest => do
    let value ← fieldValue find name field
    let others ← readRow find rest
    match value with
    | some value => return (name, value) :: others
    | none => return others

end Fields

/-! ## Releases -/

/-- The number that a field says, if the field is there. -/
def optionalInteger (row : Row) (name : String) : Logged (Option Int) :=
  match row.value? name with
  | none => pure none
  | some line => do return some (Int.ofNat (← readInteger line.softened))

/-- The number that a field says, zero if the field is not there. -/
def integerOrZero (row : Row) (name : String) : Logged Nat :=
  match row.value? name with
  | none => pure 0
  | some line => readInteger line.softened

/-- The text of a field of a release, which has to be one. -/
def wholeText (field : String) : Line → Schema.Check String
  | .whole s => .fits s
  | .broken _ => (Schema.Check.fail .badText).under (.key field)

def textsOf (title link : Line) : Except Trouble (String × String) :=
  (Prod.mk <$> wholeText "title" title <*> wholeText "download_url" link).toExcept.mapError .unfit

/-- The release that a row with a title and a link makes. -/
def releaseOf (row : Row) (title link : Line) (indexer : String) (extract : Quality.Extractor) :
    Run Release := do
  let size ← ExceptT.lift (readLineSize ((row.value? "size").getD ""))
  let seeders ← ExceptT.lift (integerOrZero row "seeders")
  let leechers ← ExceptT.lift (integerOrZero row "leechers")
  let publishedAt ← ExceptT.lift (readLineDate ((row.value? "date").getD ""))
  let category ← ExceptT.lift (optionalInteger row "category")
  let tmdbId ← ExceptT.lift (optionalInteger row "tmdbid")
  let quality ← extract title
  let metadata :=
    if row.extra.isEmpty then none else some (row.extra.map fun e => (e.1, Detail.ofLine e.2))
  let texts ← Run.ofExcept (textsOf title link)
  return {
    title := texts.1
    indexer := indexer
    size := size
    seeders := seeders
    leechers := leechers
    downloadUrl := texts.2
    infoUrl := row.filled? "details"
    publishedAt := publishedAt
    category := category
    imdbId := row.filled? "imdbid"
    tmdbId := tmdbId
    quality := quality
    metadata := metadata }

/-- The release that a row makes, if it has what a release needs. -/
def toRelease (row : Row) (indexer : String) (extract : Quality.Extractor) :
    Run (Option Release) :=
  match row.filled? "title", row.filled? "download" with
  | some title, some link => some <$> releaseOf row title link indexer extract
  | _, _ => pure none

/-- The releases that some rows make, in their order. -/
def toReleases (indexer : String) (extract : Quality.Extractor) : List Row → Run (List Release)
  | [] => pure []
  | row :: rest => do
    let release ← toRelease row indexer extract
    let others ← toReleases indexer extract rest
    return release.toList ++ others

end ReleaseSearch.Results
