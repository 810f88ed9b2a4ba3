import ReleaseSearch.Definition.Findings
import ReleaseSearch.Data.Json
import ReleaseSearch.Yaml.Read

/-!
# A directory of definitions

Every definition has a file of its own, named for it.  The ending of the name says in which format
the file is.
-/

namespace ReleaseSearch.Catalogue

open Text

/-- A directory; without files there is none. -/
structure Directory where
  /-- How messages name the directory. -/
  path : String
  /-- The files and their contents. -/
  files : Option (List (String × List UInt8))

/-- The endings of definition files; the file with the first one counts. -/
def endings : List String := [".yml", ".yaml", ".json"]

/-- The place of the last point in a name, if it neither starts nor ends the name. -/
def lastPoint? (cs : List Char) : Option Nat :=
  let after := (cs.reverse.takeWhile (· != '.')).length
  if after = 0 ∨ after + 1 ≥ cs.length then none else some (cs.length - after - 1)

/-- The ending of a file name, from its last point on. -/
def ending (name : String) : String :=
  match lastPoint? name.toList with
  | some i => String.ofList (name.toList.drop i)
  | none => ""

def stem (name : String) : String :=
  match lastPoint? name.toList with
  | some i => String.ofList (name.toList.take i)
  | none => name

namespace Directory

/-- The content of a file.  Parts of a path that stay in place are ignored. -/
def content? (d : Directory) (name : String) : Option (List UInt8) := do
  let files ← d.files
  if name.startsWith "/" then failure
  match (pieces '/' name).filter fun part => part != "" && part != "." with
  | [plain] => (files.find? (·.1 == plain)).map (·.2)
  | _ => failure

/-- Writes a file, in place of one of the same name. -/
def write (d : Directory) (name : String) (content : List UInt8) : Directory :=
  { d with files := some (((d.files.getD []).filter (·.1 != name)) ++ [(name, content)]) }

def delete (d : Directory) (name : String) : Directory :=
  { d with files := d.files.map (·.filter (·.1 != name)) }

def available (d : Directory) : List String :=
  let names := ((d.files.getD []).map (·.1)).filter fun name => endings.contains (ending name)
  (names.map stem).mergeSort fun a b => a ≤ b

def find? (d : Directory) (id : String) : Option String :=
  (endings.map (id ++ ·)).find? fun name => (d.content? name).isSome

/-- Every end of a line as a single line feed. -/
def plainLines : List Char → List Char
  | '\r' :: '\n' :: rest => '\n' :: plainLines rest
  | '\r' :: rest => '\n' :: plainLines rest
  | c :: rest => c :: plainLines rest
  | [] => []

/-- What a file leads to that is in no known format. -/
def unreadable (name : String) : Trouble :=
  .failure
    { kind := .definition .unreadable, message := "Could not parse definition file " ++ name }

def faultTrouble (name : String) : Yaml.Fault → Trouble
  | .malformed => unreadable name
  | .noDigits => .breakdown .noItem
  | .unknownWord => .breakdown .noEntry
  | .noDate => .breakdown .noPart

/-- The data that a text holds, which came from a file of some name. -/
def parse (name text : String) : Except Trouble Data :=
  match ending name with
  | ".yml" | ".yaml" => (Yaml.read text).mapError (faultTrouble name)
  | ".json" =>
    match Json.read true text.toList with
    | some d => .ok d
    | none => .error (unreadable name)
  | other =>
    .error (.breakdown (.badValue (some ("Unsupported definition file format: " ++ other))))

def read (d : Directory) (name : String) : Except Trouble Data :=
  match d.content? name with
  | none => .error (.breakdown (.noFile none))
  | some content =>
    match Utf8.decode? content with
    | none => .error (.breakdown .badEncoding)
    | some cs => parse name (String.ofList (plainLines cs))

/-- The definition of a name, read from its file. -/
def load (settings : Settings) (d : Directory) (id : String) : Except Trouble Definition :=
  match d.find? id with
  | none =>
    .error (.breakdown (.noFile (some
      ("No definition file found for indexer '" ++ id ++ "'. Looked in: " ++ d.path))))
  | some name => (d.read name).bind fun raw => (Definition.load settings raw).outcome

end Directory

end ReleaseSearch.Catalogue
