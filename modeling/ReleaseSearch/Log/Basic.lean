import ReleaseSearch.Failure
import ReleaseSearch.Data.Basic

/-!
# Log entries

A computation that reports on its work is a value together with the entries that it wrote, oldest
first.  A `Run` may also end in a trouble; the entries written until then are kept.
-/

namespace ReleaseSearch

inductive Level where
  | debug
  | info
  | warning
  | error
  deriving DecidableEq, Repr

namespace Level

/-- The rank of a level, which leaves room for others in between. -/
def rank : Level → Int
  | .debug => 10
  | .info => 20
  | .warning => 30
  | .error => 40

def nameOfRank (n : Int) : String :=
  match n with
  | 0 => "NOTSET"
  | 10 => "DEBUG"
  | 20 => "INFO"
  | 30 => "WARNING"
  | 40 => "ERROR"
  | 50 => "CRITICAL"
  | _ => "Level " ++ Decimal.intText n

def names : List (String × Int) :=
  [("CRITICAL", 50), ("FATAL", 50), ("ERROR", 40), ("WARN", 30), ("WARNING", 30), ("INFO", 20),
    ("DEBUG", 10), ("NOTSET", 0)]

def rankOfName? (name : String) : Option Int :=
  (names.find? (·.1 == name)).map (·.2)

def name (level : Level) : String := nameOfRank level.rank

end Level

structure Entry where
  level : Level
  source : String
  message : String
  /-- Data that goes with the message. -/
  details : List (String × Data) := []

/-- A value and the entries that were written on the way to it. -/
structure Logged (α : Type) where
  value : α
  entries : List Entry

namespace Logged

/-- Goes on with the value; the new entries come after the old ones. -/
def bind (a : Logged α) (f : α → Logged β) : Logged β :=
  ⟨(f a.value).value, a.entries ++ (f a.value).entries⟩

instance : Monad Logged where
  pure a := ⟨a, []⟩
  bind := bind

def write (entry : Entry) : Logged Unit := ⟨(), [entry]⟩

def note (level : Level) (source message : String) : Logged Unit :=
  write ⟨level, source, message, []⟩

end Logged

/-- A computation that writes entries and may end in a trouble. -/
abbrev Run := ExceptT Trouble Logged

namespace Run

def fail (f : Failure) : Run α := throw (.failure f)

def breakDown (b : Breakdown) : Run α := throw (.breakdown b)

def note (level : Level) (source message : String) : Run Unit :=
  ExceptT.lift (Logged.note level source message)

/-- Lets a failure end the computation. -/
def ofExcept (e : Except Trouble α) : Run α := ExceptT.mk (pure e)

def outcome (r : Run α) : Except Trouble α := Logged.value r

def attempt (r : Run α) : Run (Except Trouble α) := ExceptT.lift r.run

def entries (r : Run α) : List Entry := Logged.entries r

end Run

end ReleaseSearch
