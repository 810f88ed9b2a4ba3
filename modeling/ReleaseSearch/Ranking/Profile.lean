import ReleaseSearch.Schema.Check

/-!
# Quality profiles

A profile says which releases are acceptable and which are preferred.
-/

namespace ReleaseSearch

open Decimal

/-- Bounds on the size, in megabytes, and preferred sources.  No bound and the bound zero both mean
that there is none. -/
structure Rules (α : Type) where
  minSize : Option α := none
  maxSize : Option α := none
  preferredSources : List String := []

/-- What a user accepts and prefers. -/
structure Profile (α : Type) where
  name : Option String := none
  /-- The accepted resolutions, lowest first. -/
  qualities : List String := []
  upgradesAllowed : Bool := false
  /-- The resolution at which upgrades end. -/
  upgradeUntil : Option String := none
  rules : Rules α := {}

namespace Profile

open Schema

def readRules (es : Entries) : Check (Rules Float) :=
  Rules.mk <$> take es "min_size_mb" none (nullable floatFromZero)
    <*> take es "max_size_mb" none (nullable floatFromZero)
    <*> take es "preferred_sources" [] (list text)

def read (es : Entries) : Check (Profile Float) :=
  Profile.mk <$> take es "name" none (nullable text) <*> take es "qualities" [] (list text)
    <*> take es "upgrades_allowed" false bool
    <*> take es "upgrade_until_quality" none (nullable text)
    <*> take es "rules" {} (record readRules)

def toData (p : Profile Float) : Data :=
  .object [("name", .optional .text p.name), ("qualities", .list (p.qualities.map .text)),
    ("upgrades_allowed", .bool p.upgradesAllowed),
    ("upgrade_until_quality", .optional .text p.upgradeUntil),
    ("rules", .object [("min_size_mb", .optional .float p.rules.minSize),
      ("max_size_mb", .optional .float p.rules.maxSize),
      ("preferred_sources", .list (p.rules.preferredSources.map .text))])]

/-- The resolution that is wanted most: the one to upgrade to, else the highest accepted one. -/
def preferred? (p : Profile α) : Option String :=
  match p.upgradeUntil with
  | some quality => if quality = "" then p.qualities.getLast? else some quality
  | none => p.qualities.getLast?

end Profile

end ReleaseSearch
