import ReleaseSearch.Log.Record

/-!
# Loggers

A logger hands the records of a rank that is high enough to its outputs.  Setting a logger up
replaces the output that an earlier setup gave it and keeps all others.
-/

namespace ReleaseSearch

/-- Where a logger writes. -/
inductive Sink where
  /-- An output that a setup gave the logger. -/
  | stream (rank : Int) (asJson : Bool)
  /-- An output from elsewhere, which drops what it gets. -/
  | foreign
  deriving DecidableEq, Repr

structure Logger where
  /-- The lowest rank that is written; zero leaves it to the default. -/
  rank : Int := 0
  sinks : List Sink := []
  deriving Inhabited

namespace Logger

/-- The lowest rank that is written if a logger does not say. -/
def defaultRank : Int := 30

def isStream : Sink → Bool
  | .stream .. => true
  | .foreign => false

/-- Gives a logger an output, in place of one that a setup gave it before. -/
def setUp (l : Logger) (rank : Int) (asJson : Bool) : Logger where
  rank := rank
  sinks := l.sinks.filter (!isStream ·) ++ [.stream rank asJson]

/-- The rank of a level's name; an unknown name stands for INFO. -/
def rankOf (name : String) : Int := (Level.rankOfName? name).getD Level.info.rank

def configure (l : Logger) (level : String) (asJson : Bool) : Logger :=
  l.setUp (rankOf level) asJson

/-- Whether records of a rank are handed on; those without a positive rank never are. -/
def isEnabledFor (l : Logger) (rank : Int) : Bool :=
  0 < rank && (if l.rank = 0 then defaultRank else l.rank) ≤ rank

/-- What an output writes for a record; a message that does not fit its arguments is not
written. -/
def written? (record : Record) (correlation : Correlation) : Sink → Option Data
  | .foreign => none
  | .stream rank asJson =>
    if record.rank < rank then none
    else if asJson then
      (record.plainFields correlation true).toOption.map Data.object
    else (record.lineText correlation).toOption.map .text

def log (l : Logger) (record : Record) (correlation : Correlation) : List Data :=
  if l.isEnabledFor record.rank then l.sinks.filterMap (written? record correlation) else []

/-- The record of an output: its kind, its rank, its form and how many filters it has. -/
def sinkData : Sink → Data
  | .stream rank asJson =>
    .list [.text "StreamHandler", .int rank,
      .text (if asJson then "JSONLogFormatter" else "Formatter"), .int 1]
  | .foreign => .list [.text "NullHandler", .int 0, .null, .int 0]

def toData (l : Logger) : Data :=
  .object [("level", .int l.rank), ("handlers", .list (l.sinks.map sinkData))]

end Logger

end ReleaseSearch
