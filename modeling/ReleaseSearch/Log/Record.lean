import ReleaseSearch.Log.Basic
import ReleaseSearch.Log.Correlation
import ReleaseSearch.Log.Message

/-!
# Records

A record is an entry as it is handed to an output: with a rank of any number, the arguments of its
message, and the place in a program that it comes from.
-/

namespace ReleaseSearch

open Text Decimal

/-- An error that a record tells of, by its name and its text; both may be unknown. -/
structure Reported where
  name : Option String := none
  text : Option String := none

/-- An entry as it is handed to an output. -/
structure Record where
  name : String
  rank : Int
  path : String := ""
  line : Int := 0
  message : String
  arguments : List Data := []
  function : Option String := none
  error : Option Reported := none
  /-- Data that goes with the message. -/
  details : Option Data := none

namespace Record

/-- The name of a file without its last extension; dots at the start belong to the name. -/
def stem (file : List Char) : List Char :=
  let dots := file.takeWhile (· == '.')
  let rest := file.drop dots.length
  let extension := (rest.reverse.takeWhile (· != '.')).length
  if extension = rest.length then file
  else dots ++ rest.take (rest.length - extension - 1)

def moduleName (r : Record) : String :=
  String.ofList (stem (r.path.toList.reverse.takeWhile (· != '/')).reverse)

def text (r : Record) : Except Breakdown String := Message.fill r.message r.arguments

/-- The fields of a record that do not depend on where it comes from. -/
def plainFields (r : Record) (correlation : Correlation) (withExtra : Bool) :
    Except Breakdown (List (String × Data)) := do
  let error :=
    (r.error.map fun (e : Reported) =>
      ("exception",
        Data.object [("type", .optional .text e.name), ("message", .optional .text e.text)])).toList
  let details := ((r.details.bind Data.present?).map fun d => ("extra", d)).toList
  let base :=
    [("level", Data.text (Level.nameOfRank r.rank)), ("logger", Data.text r.name),
      ("message", Data.text (← r.text))]
  return Correlation.merge base (correlation.fields withExtra ++ error ++ details)

/-- All fields of a record, but for the time. -/
def fields (r : Record) (correlation : Correlation) (withExtra : Bool) :
    Except Breakdown (List (String × Data)) := do
  let plain ← r.plainFields correlation withExtra
  return Correlation.merge plain
    [("module", .text r.moduleName), ("function", .optional .text r.function),
      ("line", .int r.line)]

/-- The text that stands for a part of the correlation that is not set. -/
def unset : String := "-"

/-- The id of the search and the name of the indexer, as lines show them. -/
def marks (correlation : Correlation) : String × String :=
  ((Correlation.filled? correlation.searchId).getD unset,
    (Correlation.filled? correlation.indexer).getD unset)

/-- A record as one line, but for the time. -/
def lineText (r : Record) (correlation : Correlation) : Except Breakdown String := do
  let (searchId, indexer) := marks correlation
  return "[" ++ Level.nameOfRank r.rank ++ "] " ++ r.name ++ " [" ++ searchId ++ "/" ++ indexer
    ++ "] - " ++ (← r.text)

/-- Adds the correlation to what goes with a message, and moves the data there.  The values of the
correlation count more than others of the same name, and the data counts most. -/
def withCorrelation (correlation : Correlation) (keywords : Data) : Except Breakdown Data :=
  match keywords with
  | .map es =>
    match Data.find? "extra" es with
    | none => .ok (finish es [])
    | some (.map extra) => .ok (finish es extra)
    | some _ => .error .badKind
  | _ => .error .badKind
where
  /-- The keywords with what goes with the message. -/
  finish (es extra : Entries) : Data :=
    let correlated := (correlation.fields true).foldl
      (fun all f => Data.put all (.text f.1) f.2) extra
    let detailed :=
      match Data.find? "extra_data" es with
      | some d => Data.put correlated (.text "extra_data") d
      | none => correlated
    let others := es.filter fun e => !Data.same e.1 (.text "extra_data")
    .map (Data.put others (.text "extra") (.map detailed))

end Record

end ReleaseSearch
