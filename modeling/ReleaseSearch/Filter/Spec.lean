import ReleaseSearch.Data.Wording
import ReleaseSearch.Filter.Basic

/-!
# Filters as they are written

A definition names a filter, and may give it arguments: a list of them or a single one.
`Filter.problems` says what stands in the way of a filter, `Filter.build` builds it.  Neither can
work on an argument that cannot be put in words.
-/

namespace ReleaseSearch.Filter

/-- The text of an argument; null stands for an empty one. -/
def argument : Data → Except Breakdown String
  | .null => .ok ""
  | d => d.inWords

/-- The arguments of a filter as texts; a single value stands for a list of one. -/
def arguments : Data → Except Breakdown (List String)
  | .null => .ok []
  | .list items => items.mapM argument
  | d => do return [← d.inWords]

/-- How many arguments a filter needs; unknown filters take anything. -/
def needed? : String → Option Nat
  | "replace" | "re_replace" => some 2
  | "append" | "prepend" => some 1
  | "trim" | "dateparse" => some 0
  | _ => none

/-- The problems of a written filter, none if it can be built. -/
def problems : Data → Except Breakdown (List String)
  | .text _ => .ok []
  | .map entries =>
    match Data.find? "name" entries with
    | some (.text name) =>
      if name.isEmpty then .ok ["filter is missing a 'name'"]
      else
        match needed? name with
        | none => .ok []
        | some needed => do
          let given := (← arguments ((Data.find? "args" entries).getD .null)).length
          if given < needed then
            return ["filter '" ++ name ++ "' needs " ++ Decimal.intText needed
              ++ " argument(s), got " ++ Decimal.intText given]
          else return []
    | _ => .ok ["filter is missing a 'name'"]
  | d => .ok ["filter must be a mapping or a name, got " ++ d.kindName]

/-- The filter of a name and arguments; missing ones are taken as empty. -/
def named (name : String) (args : List String) : Filter :=
  let argument (i : Nat) : String := args.getD i ""
  match name with
  | "replace" => .replace (argument 0) (argument 1)
  | "re_replace" => .substitute (argument 0) (argument 1)
  | "append" => .append (argument 0)
  | "prepend" => .prepend (argument 0)
  | "trim" => .trim args[0]?
  | "dateparse" => .date args[0]?
  | name => .unknown name args

/-- The filter of a name and arguments, with a warning if the name is unknown. -/
def announce (name : String) (args : List String) : Logged Filter := do
  if (needed? name).isNone then
    Logged.note .warning source
      ("Unsupported filter '" ++ name ++ "' will pass values through unchanged")
  return named name args

/-- The name of a written filter and its arguments. -/
def parts? : Data → Option (String × Data)
  | .text name => some (name, .null)
  | .map entries =>
    match Data.find? "name" entries with
    | some (.text name) => some (name, (Data.find? "args" entries).getD .null)
    | _ => none
  | _ => none

/-- Builds a written filter; a bare name stands for the filter without arguments.  The first
problem is the error. -/
def build (spec : Data) : ExceptT Breakdown Logged Filter := do
  let spec : Data :=
    match spec with
    | .text name => .object [("name", .text name)]
    | spec => spec
  match ← ExceptT.mk (pure (problems spec)), parts? spec with
  | problem :: _, _ => throw (.badValue (some problem))
  | [], some (name, args) =>
    let args ← ExceptT.mk (pure (arguments args))
    ExceptT.lift (announce name args)
  | [], none => throw (.badValue (some "filter is missing a 'name'"))

def buildAll (specs : List Data) : ExceptT Breakdown Logged (List Filter) := specs.mapM build

end ReleaseSearch.Filter
