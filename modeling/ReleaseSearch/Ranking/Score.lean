import ReleaseSearch.Decimal.Scale
import ReleaseSearch.Ranking.Profile
import ReleaseSearch.Release.Basic
import ReleaseSearch.Text.Substring

/-!
# Scores

A release that a profile accepts has a score from 0 to 100, of which the resolution makes up 40
parts in a hundred, the source 30, the size 20 and the number of seeders 10.  The score is
computed in any arithmetic for measures.
-/

namespace ReleaseSearch.Ranking

open Decimal

variable {α : Type} [Scale α]

def levels : List (String × Nat) :=
  [("360p", 1), ("480p", 2), ("576p", 3), ("720p", 4), ("1080p", 5), ("2160p", 6)]

/-- The rank of a resolution, 0 for an unknown one. -/
def level (resolution : Option String) : Nat :=
  match resolution with
  | none => 0
  | some label => ((levels.find? (·.1 == label)).map (·.2)).getD 0

/-- What a value without a whole part leads to. -/
def floorTrouble : FloorFault → Breakdown
  | .infinite => .tooLarge
  | .undefined => .badValue none

def roundHalfUp (x : α) : Except Breakdown Int := (Scale.rounded x).mapError floorTrouble

/-! ## Acceptance -/

inductive Rejection where
  | qualityUnknown
  | qualityNotAllowed
  | tooSmall
  | tooLarge
  deriving DecidableEq, Repr

def Rejection.code : Rejection → String
  | .qualityUnknown => "quality_unknown"
  | .qualityNotAllowed => "quality_not_allowed"
  | .tooSmall => "too_small"
  | .tooLarge => "too_large"

def bytesPerMegabyte : Nat := 1024 * 1024

def boundInBytes : Option α → α
  | none => Scale.zero
  | some bound =>
    if Scale.isZero bound then Scale.zero else bound * Scale.ratio bytesPerMegabyte 1

/-- The smallest size in bytes, zero if there is none. -/
def minBytes (p : Profile α) : α := boundInBytes p.rules.minSize

/-- The largest size in bytes, zero if there is none. -/
def maxBytes (p : Profile α) : α := boundInBytes p.rules.maxSize

def resolution? (r : Release) : Option String := r.quality.bind (·.resolution)

/-- Whether the resolution of a release is among the accepted ones. -/
def isAllowed (r : Release) (p : Profile α) : Bool :=
  match resolution? r with
  | none => false
  | some label => p.qualities.contains label

def qualityRejection? (r : Release) (p : Profile α) : Option Rejection :=
  if r.quality.isNone then some .qualityUnknown
  else if isAllowed r p then none
  else some .qualityNotAllowed

def sizeRejection? (r : Release) (p : Profile α) : Option Rejection :=
  if Scale.less Scale.zero (minBytes p) && Scale.compareInt? r.size (minBytes p) == some .lt then
    some .tooSmall
  else if Scale.less Scale.zero (maxBytes p) &&
      Scale.compareInt? r.size (maxBytes p) == some .gt then
    some .tooLarge
  else none

/-- Why a release is not accepted; the quality is looked at first. -/
def rejection? (r : Release) (p : Profile α) : Option Rejection :=
  (qualityRejection? r p).or (sizeRejection? r p)

/-! ## Parts of the score -/

/-- The part for the resolution: full for the preferred one, else 50 and more the nearer an
accepted one comes to it from below. -/
def qualityScore (r : Release) (p : Profile α) : Except Breakdown Int :=
  if r.quality.isNone then .ok 0
  else
    let preferred := p.preferred?
    if preferred.isSome && resolution? r == preferred then .ok 100
    else if isAllowed r p then
      let wanted := level preferred
      let found := level (resolution? r)
      if wanted = 0 then .ok 50
      else if found ≤ wanted then
        (50 + ·) <$> roundHalfUp (Scale.ratio found wanted * Scale.ratio 49 1 : α)
      else .ok 50
    else .ok 0

/-- The part for the source: full for a preferred one. -/
def sourceScore (r : Release) (p : Profile α) : Int :=
  match r.quality with
  | none => 50
  | some quality =>
    if p.rules.preferredSources.isEmpty then 50
    else if p.rules.preferredSources.any (Text.contains · (quality.source.getD "")) then 100
    else 25

/-- The part for the size: the nearer to the middle between the bounds, the more. -/
def sizeScore (r : Release) (p : Profile α) : Except Breakdown Int :=
  let low := minBytes p
  let high := maxBytes p
  if Scale.isZero low && Scale.isZero high then .ok 50
  else
    let middle := (low + high) / Scale.ratio 2 1
    let range := high - low
    if Scale.less range Scale.zero || Scale.isZero range then .ok 50
    else
      match Scale.ofInt? r.size with
      | none => .error .tooLarge
      | some (size : α) => do
        let loss ← roundHalfUp (Scale.distance (size - middle) / range * Scale.ratio 100 1)
        return max 0 (100 - loss)

def seederScore (r : Release) : Int :=
  if r.seeders = 0 then 0
  else if r.seeders < 5 then 30
  else if r.seeders < 20 then 60
  else if r.seeders < 50 then 80
  else 100

def part (n : Int) (tenths : Nat) : α := Scale.ratio n.toNat 1 * Scale.ratio tenths 10

/-- The score of a release, accepted or not. -/
def score (r : Release) (p : Profile α) : Except Breakdown Int := do
  let quality ← qualityScore r p
  let size ← sizeScore r p
  roundHalfUp
    ((part quality 4 + part (sourceScore r p) 3 + part size 2 + part (seederScore r) 1 : α))

/-- What a profile says of a release. -/
inductive Verdict where
  | accepted (score : Int)
  | rejected (reason : Rejection)
  deriving DecidableEq, Repr

/-- What a profile says of a release. -/
def judge (r : Release) (p : Profile α) : Except Breakdown Verdict :=
  match rejection? r p with
  | some reason => .ok (.rejected reason)
  | none => Verdict.accepted <$> score r p

/-! ## Upgrades -/

/-- Whether a release improves on what is owned. -/
def isUpgrade (r : Release) (p : Profile α) (owned : Option String) : Bool :=
  p.upgradesAllowed && r.quality.isSome &&
    match owned with
    | none => true
    | some label =>
      isAllowed r p &&
        !(p.upgradeUntil.any fun limit => limit != "" && label == limit) &&
        level (some label) < level (resolution? r)

/-! ## Order -/

def source : String := "scoutarr.services.quality_matcher"

/-- An accepted release with its score and its place in the list it came from. -/
structure Ranked where
  release : Release
  score : Int
  position : Nat

/-- The accepted ones of the releases from a place on, in the order given. -/
def acceptedFrom (p : Profile α) : Nat → List Release → Except Breakdown (List Ranked)
  | _, [] => .ok []
  | position, r :: rs => do
    let verdict ← judge r p
    let rest ← acceptedFrom p (position + 1) rs
    match verdict with
    | .accepted score => return ⟨r, score, position⟩ :: rest
    | .rejected _ => return rest

/-- Whether the first of two ranked releases may stand before the second. -/
def Ranked.mayPrecede (a b : Ranked) : Bool :=
  if a.score ≠ b.score then b.score < a.score
  else if a.release.seeders ≠ b.release.seeders then b.release.seeders < a.release.seeders
  else a.position ≤ b.position

/-- The accepted releases, best first: by score, then by seeders, then in the order given. -/
def rank (rs : List Release) (p : Profile α) : Except Breakdown (List Ranked) :=
  (·.mergeSort Ranked.mayPrecede) <$> acceptedFrom p 0 rs

def best? (rs : List Release) (p : Profile α) : Except Breakdown (Option Ranked) :=
  (·.head?) <$> rank rs p

end ReleaseSearch.Ranking
