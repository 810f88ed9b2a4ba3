import ReleaseSearch.Data.Wording
import ReleaseSearch.Log.Basic
import ReleaseSearch.Text.Case
import ReleaseSearch.Text.Blank
import ReleaseSearch.Text.Utf8

/-!
# The delay between requests

A delay is written as a number with a unit.  Without a unit, a small number is taken for seconds
and a large one for milliseconds.
-/

namespace ReleaseSearch.Definition.Delay

open Decimal Text

/-- Where the entries about definitions come from. -/
def source : String := "scoutarr.adapters.definition_loader"

def secondsUnits : List String := ["seconds", "second", "s", "sec"]

def millisecondsUnits : List String := ["milliseconds", "millisecond", "ms"]

def unitName (unit : Data) : Except Breakdown String := do return lower (strip (← unit.inWords))

def number : Data → Except Breakdown Float
  | .float x => .ok x
  | .int n =>
    match ofInt? n with
    | some x => .ok x
    | none => .error .tooLarge
  | .bool b => .ok (if b then 1 else 0)
  | .text s => ofText (some s)
  | .bytes bs => ofText ((Utf8.decode? bs).map String.ofList)
  | _ => .error .badKind
where
  /-- The number that a text is. -/
  ofText (s : Option String) : Except Breakdown Float :=
    match s.bind readFloat? with
    | some x => .ok x
    | none => .error (.badValue none)

/-- A delay in seconds, unless there is none: null, zero and negative delays are none. -/
def normalize (value unit : Data) (id : String) : Run (Option Float) :=
  match value with
  | .null => pure none
  | value => do
    let delay ← Run.ofExcept ((number value).mapError .breakdown)
    if delay ≤ 0 then return none
    match unit with
    | .null =>
      let seconds := if delay < 10 then delay else delay / 1000
      Run.note .warning source
        ("Definition '" ++ id ++ "' sets request_delay=" ++ value.display ++
          " without request_delay_unit, assuming " ++ floatText seconds ++ "s")
      return some seconds
    | unit =>
      let name ← Run.ofExcept ((unitName unit).mapError .breakdown)
      if secondsUnits.contains name then return some delay
      else if millisecondsUnits.contains name then return some (delay / 1000)
      else Run.breakDown (.badValue (some ("Unknown request_delay_unit '" ++ name ++ "'")))

end ReleaseSearch.Definition.Delay
