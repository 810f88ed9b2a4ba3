import ReleaseSearch.Schema.Problem
import ReleaseSearch.Data.Basic
import ReleaseSearch.Decimal.Read
import ReleaseSearch.Text.Utf8
import ReleaseSearch.Text.Case
import ReleaseSearch.Time.Read

/-!
# Reading records from data

A `Check` is either a value or all the problems found.  Checks combine with `<*>`, which keeps the
problems of both sides in order.  Values are read generously: numbers may be written as texts, and
truth values as words.
-/

namespace ReleaseSearch.Schema

open ReleaseSearch.Text ReleaseSearch.Decimal ReleaseSearch.Time

/-- A value or the problems that stand in its way. -/
inductive Check (α : Type) where
  | fits (a : α)
  | fails (problems : List Problem)

namespace Check

def map (f : α → β) : Check α → Check β
  | .fits a => .fits (f a)
  | .fails ps => .fails ps

/-- Combines two checks; the problems of both count. -/
def seq : Check (α → β) → Check α → Check β
  | .fits f, .fits a => .fits (f a)
  | .fits _, .fails ps => .fails ps
  | .fails ps, .fits _ => .fails ps
  | .fails ps, .fails qs => .fails (ps ++ qs)

instance : Applicative Check where
  map := map
  pure := .fits
  seq f x := seq f (x ())

def fail (reason : Reason) : Check α := .fails [⟨[], reason⟩]

/-- The check seen from one step further out. -/
def under (step : Step) : Check α → Check α
  | .fits a => .fits a
  | .fails ps => .fails (ps.map (Problem.under step))

def andThen (c : Check α) (f : α → Check β) : Check β :=
  match c with
  | .fits a => f a
  | .fails ps => .fails ps

def toExcept : Check α → Except (List Problem) α
  | .fits a => .ok a
  | .fails ps => .error ps

end Check

/-- All items, each read by `check`, from an index on. -/
def checkItems (check : Data → Check α) : Nat → List Data → Check (List α)
  | _, [] => .fits []
  | i, item :: rest =>
    List.cons <$> (check item).under (.index i) <*> checkItems check (i + 1) rest

def text : Data → Check String
  | .text s => .fits s
  | .bytes bs =>
    match Utf8.decode? bs with
    | some cs => .fits (String.ofList cs)
    | none => .fail .badText
  | _ => .fail .notText

def filledText (d : Data) : Check String :=
  (text d).andThen fun s => if s.isEmpty then .fail .textTooShort else .fits s

/-- A digit run in which single underscores may stand between digits. -/
def isDigitRun : List Char → Bool
  | [] => false
  | [c] => isAsciiDigit c
  | c :: '_' :: rest => isAsciiDigit c && isDigitRun rest
  | c :: rest => isAsciiDigit c && isDigitRun rest

/-- A whole number written as a text; zeros may follow a point. -/
def readInt (s : String) : Check Int :=
  let cs := stripBy isNumberBlank s.toList
  let (negative, body) : Bool × List Char :=
    match cs with
    | '-' :: rest => (true, rest)
    | '+' :: rest => (false, rest)
    | _ => (false, cs)
  let whole := body.takeWhile (· != '.')
  let isRound := (body.drop (whole.length + 1)).all (· == '0')
  if !isRound || !isDigitRun whole then .fail .badInt
  else
    let digits := whole.filter (· != '_')
    if digits.length > digitLimit then .fail .hugeInt
    else
      let n : Int := digitsValue digits
      .fits (if negative then -n else n)

/-- A whole number; truth values count as 0 and 1. -/
def int : Data → Check Int
  | .int n => .fits n
  | .bool b => .fits (if b then 1 else 0)
  | .float x =>
    match truncate? x with
    | none => .fail .notFinite
    | some n => if Float.ofInt n == x then .fits n else .fail .fractional
  | .text s => readInt s
  | _ => .fail .notInt

/-- A whole number that is not less than `bound`. -/
def intFrom (bound : Int) (d : Data) : Check Int :=
  (int d).andThen fun n => if n < bound then .fail .tooSmall else .fits n

def natural (d : Data) : Check Nat := (intFrom 0 d).map Int.toNat

def float : Data → Check Float
  | .float x => .fits x
  | .int n =>
    match ofInt? n with
    | some x => .fits x
    | none => .fits (if n < 0 then -infinity else infinity)
  | .bool b => .fits (if b then 1 else 0)
  | .text s =>
    match readFloat? s with
    | some x => .fits x
    | none => .fail .badFloat
  | _ => .fail .notFloat

/-- A number from zero on.  What is no number is not from zero on either. -/
def floatFromZero (d : Data) : Check Float :=
  (float d).andThen fun x => if 0 ≤ x then .fits x else .fail .tooSmall

def truthWords : List (String × Bool) :=
  [("0", false), ("off", false), ("f", false), ("false", false), ("n", false), ("no", false),
    ("1", true), ("on", true), ("t", true), ("true", true), ("y", true), ("yes", true)]

/-- A truth value, which may be written as 0 or 1 or as a word. -/
def bool : Data → Check Bool
  | .bool b => .fits b
  | .text s =>
    match truthWords.find? (·.1 == s.toLower) with
    | some (_, b) => .fits b
    | none => .fail .badBool
  | .int n => if n = 0 then .fits false else if n = 1 then .fits true else .fail .badBool
  | .float x =>
    match truncate? x with
    | none => .fail .notBool
    | some n =>
      if Float.ofInt n != x then .fail .notBool
      else if n = 0 then .fits false
      else if n = 1 then .fits true
      else .fail .badBool
  | _ => .fail .notBool

/-- A moment, which may be written as a text or as the seconds or milliseconds since 1970. -/
def moment : Data → Check Moment
  | .moment m => .fits m
  | .date d => .fits d.midnight
  | .text s => ofOption (readLenient? s)
  | .int n => ofOption (ofStamp? n)
  | .float x => ofOption (ofStampFloat? x)
  | _ => .fail .notMoment
where
  /-- The moment, if there is one. -/
  ofOption : Option Moment → Check Moment
    | some m => .fits m
    | none => .fail .badMoment

def nullable (check : Data → Check α) : Data → Check (Option α)
  | .null => .fits none
  | d => (check d).map some

def items (wrong : Reason) : Data → Check (List Data)
  | .list xs => .fits xs
  | .set xs => .fits xs
  | _ => .fail wrong

def tuple (check : Data → Check α) (d : Data) : Check (List α) :=
  (items .notTuple d).andThen (checkItems check 0)

def list (check : Data → Check α) (d : Data) : Check (List α) :=
  (items .notList d).andThen (checkItems check 0)

def pair (first : Data → Check α) (second : Data → Check β) (d : Data) : Check (α × β) :=
  (items .notTuple d).andThen fun
    | [a, b] => Prod.mk <$> (first a).under (.index 0) <*> (second b).under (.index 1)
    | [] =>
      .fails [⟨[.index 0], .missing⟩, ⟨[.index 1], .missing⟩]
    | [a] =>
      Prod.mk <$> (first a).under (.index 0) <*> (Check.fail Reason.missing).under (.index 1)
    | _ => .fail .tooLong

def stepTo : Data → Step
  | .text s => .key s
  | .int n => .index n
  | d => .key d.display

def entryKey (key : Data) : Check String :=
  ((text key).under (.key "[key]")).under (stepTo key)

def entries : Data → Check Entries
  | .map es => .fits es
  | _ => .fail .notMap

/-- Entries with texts as keys and values of one kind. -/
def checkEntries (check : Data → Check α) : Entries → Check (List (String × α))
  | [] => .fits []
  | (key, value) :: rest =>
    List.cons <$> (Prod.mk <$> entryKey key <*> (check value).under (stepTo key)) <*>
      checkEntries check rest

/-- A map from texts to values of one kind. -/
def dictionary (check : Data → Check α) (d : Data) : Check (List (String × α)) :=
  (entries d).andThen (checkEntries check)

def freeDictionary (d : Data) : Check (List (String × Data)) := dictionary (fun v => .fits v) d

def record (read : Entries → Check α) : Data → Check α
  | .map es => read es
  | _ => .fail .notRecord

def need (es : Entries) (key : String) (check : Data → Check α) : Check α :=
  match Data.find? key es with
  | some d => (check d).under (.key key)
  | none => (Check.fail Reason.missing).under (.key key)

/-- The value of a field, or what it is when it is not there. -/
def take (es : Entries) (key : String) (default : α) (check : Data → Check α) : Check α :=
  match Data.find? key es with
  | some d => (check d).under (.key key)
  | none => .fits default

end ReleaseSearch.Schema
