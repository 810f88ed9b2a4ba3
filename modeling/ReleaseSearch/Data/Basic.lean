import ReleaseSearch.Text.Quoted
import ReleaseSearch.Decimal.Shortest
import ReleaseSearch.Decimal.Number
import ReleaseSearch.Time.Calendar

/-!
# Untyped data

`Data` is the content of a document in a data format, before anything is known about its shape.
A map keeps its entries in the order in which their keys first occurred.
-/

namespace ReleaseSearch

open Text Decimal Time

inductive Data where
  | null
  | bool (b : Bool)
  | int (n : Int)
  | float (x : Float)
  | text (s : String)
  | bytes (bs : List UInt8)
  | date (d : Date)
  | moment (m : Moment)
  | list (items : List Data)
  | set (items : List Data)
  | map (entries : List (Data × Data))
  deriving Inhabited

abbrev Entries := List (Data × Data)

namespace Data

/-- The name of the kind of a value, as messages show it. -/
def kindName : Data → String
  | .null => "NoneType"
  | .bool _ => "bool"
  | .int _ => "int"
  | .float _ => "float"
  | .text _ => "str"
  | .bytes _ => "bytes"
  | .date _ => "date"
  | .moment _ => "datetime"
  | .list _ => "list"
  | .set _ => "set"
  | .map _ => "dict"

def isKey : Data → Bool
  | .list _ | .set _ | .map _ => false
  | _ => true

/-- Whether a value counts as present: it is not null, false, zero or empty. -/
def isPresent : Data → Bool
  | .null => false
  | .bool b => b
  | .int n => n != 0
  | .float x => x != 0
  | .text s => s != ""
  | .bytes bs => !bs.isEmpty
  | .date _ | .moment _ => true
  | .list items | .set items => !items.isEmpty
  | .map entries => !entries.isEmpty

/-! ## Text -/

/-- The duration that an offset is, as messages show it. -/
def durationText (offset : Int) : String :=
  let days := Int.fdiv offset dayLength
  let rest := Int.fmod offset dayLength
  let seconds := rest / 1000000
  let micro := rest % 1000000
  let part (name : String) (n : Int) : List String :=
    if n = 0 then [] else [name ++ "=" ++ intText n]
  let parts := part "days" days ++ part "seconds" seconds ++ part "microseconds" micro
  "datetime.timedelta(" ++ (if parts.isEmpty then "0" else ", ".intercalate parts) ++ ")"

/-- The form of a moment inside a list or a map. -/
def quotedMoment (m : Moment) : String :=
  let base := [m.date.year, m.date.month, m.date.day, m.hour, m.minute]
  let fine :=
    if m.microsecond ≠ 0 then [m.second, m.microsecond]
    else if m.second ≠ 0 then [m.second]
    else []
  let zone :=
    match m.offset with
    | none => []
    | some 0 => ["tzinfo=datetime.timezone.utc"]
    | some offset => ["tzinfo=datetime.timezone(" ++ durationText offset ++ ")"]
  let numbers := (base ++ fine).map fun (n : Nat) => intText n
  "datetime.datetime(" ++ ", ".intercalate (numbers ++ zone) ++ ")"

mutual

/-- The form of a value inside a list or a map, where texts have quotes. -/
def quoted : Data → String
  | .null => "None"
  | .bool b => if b then "True" else "False"
  | .int n => intText n
  | .float x => floatText x
  | .text s => Text.quoted s
  | .bytes bs => quotedBytes bs
  | .date d =>
    let numbers := [d.year, d.month, d.day].map fun (n : Nat) => intText n
    "datetime.date(" ++ ", ".intercalate numbers ++ ")"
  | .moment m => quotedMoment m
  | .list items => "[" ++ ", ".intercalate (quotedAll items) ++ "]"
  | .set items =>
    if items.isEmpty then "set()" else "\x7b" ++ ", ".intercalate (quotedAll items) ++ "\x7d"
  | .map entries => "\x7b" ++ ", ".intercalate (quotedEntries entries) ++ "\x7d"

def quotedAll : List Data → List String
  | [] => []
  | item :: rest => quoted item :: quotedAll rest

def quotedEntries : List (Data × Data) → List String
  | [] => []
  | (key, value) :: rest => (quoted key ++ ": " ++ quoted value) :: quotedEntries rest

end

/-- The text of a value; a text stands for itself. -/
def display : Data → String
  | .text s => s
  | .date d => d.text
  | .moment m => m.textWith " "
  | value => value.quoted

/-! ## Comparison -/

/-- The number that a value is, if it is a finite one; truth values count as 0 and 1. -/
def fraction? : Data → Option (Int × Nat)
  | .bool b => some (if b then 1 else 0, 1)
  | .int n => some (n, 1)
  | .float x =>
    match Double.ofFloat x with
    | .finite negative mantissa exponent =>
      let (num, den) := magnitude mantissa exponent
      some (if negative then -(num : Int) else num, den)
    | _ => none
  | _ => none

mutual

/-- Whether two values are equal; numbers are compared by value, whatever their kind. -/
def same : Data → Data → Bool
  | .null, .null => true
  | .text s, .text t => s == t
  | .bytes bs, .bytes cs => bs == cs
  | .date d, .date e => d == e
  | .moment m, .moment n =>
    match m.offset, n.offset with
    | some o, some p => m.microsecondsLocal - o == n.microsecondsLocal - p
    | none, none => m == n
    | _, _ => false
  | .list xs, .list ys => sameAll xs ys
  | .set xs, .set ys => sameAll xs ys
  | .map xs, .map ys => xs.length == ys.length && sameEntries xs ys
  | a, b =>
    match a.fraction?, b.fraction? with
    | some (m, d), some (n, e) => m * e == n * d
    | none, none =>
      match a, b with
      | .float x, .float y => x == y
      | _, _ => false
    | _, _ => false

def sameAll : List Data → List Data → Bool
  | [], [] => true
  | x :: xs, y :: ys => same x y && sameAll xs ys
  | _, _ => false

/-- Whether each entry of the first map is also in the second. -/
def sameEntries : List (Data × Data) → List (Data × Data) → Bool
  | [], _ => true
  | (key, value) :: rest, other =>
    other.any (fun entry => same key entry.1 && same value entry.2) && sameEntries rest other

end

/-! ## Maps -/

def find? (key : String) : Entries → Option Data
  | [] => none
  | (.text k, value) :: rest => if k == key then some value else find? key rest
  | _ :: rest => find? key rest

/-- Sets the value of a key, at the place of an equal key if there is one. -/
def put (entries : Entries) (key value : Data) : Entries :=
  if entries.any (fun entry => same key entry.1) then
    entries.map fun entry => if same key entry.1 then (entry.1, value) else entry
  else entries ++ [(key, value)]

/-- The map of entries, the last value of a key counting. -/
def ofEntries (entries : Entries) : Data :=
  .map (entries.foldl (fun kept entry => put kept entry.1 entry.2) [])

def get? (key : String) : Data → Option Data
  | .map entries => find? key entries
  | _ => none

def object (entries : List (String × Data)) : Data :=
  .map (entries.map fun entry => (.text entry.1, entry.2))

def optional (encode : α → Data) : Option α → Data
  | none => .null
  | some a => encode a

def ofNumber : Number → Data
  | .whole n => .int n
  | .real x => .float x

/-- The number that a value is; truth values count as 0 and 1. -/
def number? : Data → Option Number
  | .int n => some (.whole n)
  | .float x => some (.real x)
  | .bool b => some (.whole (if b then 1 else 0))
  | _ => none

/-- What a value holds: the items of a list or set, the keys of a map, the characters of a text or
the numbers of the bytes.  Other values hold nothing that can be gone through. -/
def contents? : Data → Option (List Data)
  | .list items | .set items => some items
  | .map entries => some (entries.map (·.1))
  | .text s => some (s.toList.map fun c => .text (String.singleton c))
  | .bytes bs => some (bs.map fun b => .int b.toNat)
  | _ => none

def present? (d : Data) : Option Data := if d.isPresent then some d else none

def fields : Data → List (String × Data)
  | .map entries => entries.filterMap fun
    | (.text key, value) => some (key, value)
    | _ => none
  | _ => []

end Data

end ReleaseSearch
