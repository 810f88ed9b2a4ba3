import ReleaseSearch.Definition.Basic
import ReleaseSearch.Failure
import ReleaseSearch.Request.Template

/-!
# The request of a search

A definition and what is searched for determine the address and the parameters of a request, unless
the definition lacks an address or a path, or a number in what is searched for is too long for
words.
-/

namespace ReleaseSearch

open Text

namespace Definition

/-- The address of the site, without slashes at the end. -/
def baseUrl (d : Definition) : Except Failure String :=
  match d.baseUrls with
  | [] => .error (.configuration ("No base URL configured for indexer '" ++ d.id ++ "'"))
  | url :: _ => .ok (String.ofList (dropEndWhile (· == '/') url.toList))

/-- The first path that serves one of the categories; without categories, or if no path serves
them, the first one. -/
def searchPath (d : Definition) (options : SearchOptions) : Except Failure SearchPath :=
  match d.searchPaths with
  | [] => .error (.configuration ("No search path configured for indexer '" ++ d.id ++ "'"))
  | first :: rest =>
    let serves (p : SearchPath) : Bool := p.categories.any (options.categories.contains ·)
    .ok (((first :: rest).find? serves).getD first)

def filledPath (d : Definition) (options : SearchOptions) : Except Trouble String := do
  let path ← (d.searchPath options).mapError .failure
  (Template.fill true options path.template).mapError .breakdown

def searchUrl (d : Definition) (options : SearchOptions) : Except Trouble String := do
  let base ← d.baseUrl.mapError .failure
  let path ← d.filledPath options
  return base ++ "/" ++ String.ofList (path.toList.dropWhile (· == '/'))

end Definition

/-- The parameters, headers and method of a request. -/
structure RequestParams where
  inputs : List (String × Data)
  headers : List (String × String)
  method : Method

namespace RequestParams

/-- An input with its placeholders replaced, if it is a text. -/
def fillInput (options : SearchOptions) : Data → Except Breakdown Data
  | .text s => Data.text <$> Template.fill false options s
  | value => .ok value

def fillInputs (options : SearchOptions) (inputs : List (String × Data)) :
    Except Breakdown (List (String × Data)) :=
  inputs.mapM fun input => (input.1, ·) <$> fillInput options input.2

/-- The parameters of a search.  Without a path the method is `get`. -/
def ofDefinition (d : Definition) (options : SearchOptions) : Except Breakdown RequestParams := do
  return {
    inputs := ← fillInputs options d.inputs
    headers := d.headers
    method := ((d.searchPath options).toOption.map (·.method)).getD .get }

def toData (p : RequestParams) : Data :=
  .object [("query_params", .object p.inputs),
    ("headers", .list (p.headers.map fun h => .list [.text h.1, .text h.2])),
    ("method", .text p.method.name)]

end RequestParams

end ReleaseSearch
