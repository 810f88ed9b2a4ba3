/-!
# Problems of untyped data

When data is read as a record, everything that does not fit is reported at once, each problem with
the path to the place in the data.
-/

namespace ReleaseSearch.Schema

/-- A step on the way to a value: the key of a map or the index of a list. -/
inductive Step where
  | key (name : String)
  | index (n : Int)
  deriving DecidableEq, Repr

inductive Reason where
  | missing
  | notText
  | textTooShort
  | badText
  | notInt
  | badInt
  | hugeInt
  | fractional
  | notFinite
  | notFloat
  | badFloat
  | notBool
  | badBool
  | notTuple
  | notList
  | tooLong
  | notMap
  | notRecord
  | tooSmall
  | notMoment
  | badMoment
  /-- A rule of this library is broken; the text says which. -/
  | rule (text : String)
  deriving DecidableEq, Repr

structure Problem where
  path : List Step
  reason : Reason
  deriving DecidableEq, Repr

def Reason.code : Reason → String
  | .missing => "missing"
  | .notText => "string_type"
  | .textTooShort => "string_too_short"
  | .badText => "string_unicode"
  | .notInt => "int_type"
  | .badInt => "int_parsing"
  | .hugeInt => "int_parsing_size"
  | .fractional => "int_from_float"
  | .notFinite => "finite_number"
  | .notFloat => "float_type"
  | .badFloat => "float_parsing"
  | .notBool => "bool_type"
  | .badBool => "bool_parsing"
  | .notTuple => "tuple_type"
  | .notList => "list_type"
  | .tooLong => "too_long"
  | .notMap => "dict_type"
  | .notRecord => "model_type"
  | .tooSmall => "greater_than_equal"
  | .notMoment => "datetime_type"
  | .badMoment => "datetime_from_date_parsing"
  | .rule _ => "value_error"

/-- The text that goes with a reason, if it has one of its own. -/
def Reason.note : Reason → Option String
  | .rule text => some ("Value error, " ++ text)
  | _ => none

/-- The problem seen from one step further out. -/
def Problem.under (step : Step) (p : Problem) : Problem := { p with path := step :: p.path }

end ReleaseSearch.Schema
