import ReleaseSearch.Limiter.Bucket

/-!
# Limiters

A limiter holds one bucket for each service.  All who ask for the same service draw from the same
bucket.
-/

namespace ReleaseSearch

open Decimal Limiter

variable {α : Type} [Scale α]

/-- The buckets of all services. -/
structure Limiter (α : Type) where
  buckets : List (Bucket α) := []
  /-- How many buckets were made. -/
  made : Nat := 0

namespace Limiter

/-- A bucket, and the limiter that holds it. -/
structure Found (α : Type) where
  bucket : Bucket α
  limiter : Limiter α
  /-- Whether the bucket is a new one. -/
  isNew : Bool

def find? (l : Limiter α) (service : String) : Option (Bucket α) :=
  l.buckets.find? (·.service == service)

/-- Puts a bucket in the place of the one of its service, or at the end. -/
def put (l : Limiter α) (b : Bucket α) : Limiter α :=
  if l.buckets.any (·.service == b.service) then
    { l with buckets := l.buckets.map fun old => if old.service == b.service then b else old }
  else { l with buckets := l.buckets ++ [b] }

/-- A new full bucket for a service. -/
def renew (l : Limiter α) (service : String) (pace : Pace α) (now : α) : Found α :=
  let b := Bucket.full service l.made pace now
  ⟨b, { l.put b with made := l.made + 1 }, true⟩

/-- The bucket of a service, at the standard pace if there was none. -/
def bucket (l : Limiter α) (service : String) (now : α) : Found α :=
  match l.find? service with
  | some b => ⟨b, l, false⟩
  | none => l.renew service .standard now

/-- The bucket of a service at a pace.  A bucket of that pace keeps its tokens; any other one is
replaced. -/
def keepPace (l : Limiter α) (service : String) (pace : Pace α) (now : α) : Found α :=
  match l.find? service with
  | some b => if b.pace.same pace then ⟨b, l, false⟩ else l.renew service pace now
  | none => l.renew service pace now

/-- The end of asking a limiter. -/
structure Visit (α : Type) where
  answer : Answer α
  limiter : Limiter α
  now : α
  /-- The sleeps that were asked for, oldest first. -/
  sleeps : List α := []
  /-- Whether the service was given a new pace. -/
  isPaced : Bool := false

/-- Asks for tokens of a service. -/
def acquire (sleep : α → α → α) (fuel : Nat) (l : Limiter α) (service : String) (n : α)
    (patience : Patience α) (now : α) : Visit α :=
  let found := l.bucket service now
  let turn := found.bucket.acquire sleep fuel n patience now
  ⟨turn.answer, found.limiter.put turn.bucket, turn.now, turn.sleeps, false⟩

/-- Waits for the turn of a service whose requests have to be `delay` apart.  A service without a
delay need not wait. -/
def passFor (sleep : α → α → α) (fuel : Nat) (l : Limiter α) (service : String)
    (delay : Option α) (timeout : α) (now : α) : Visit α :=
  match delay with
  | none => ⟨.granted, l, now, [], false⟩
  | some d =>
    if Scale.atLeast Scale.zero d then ⟨.granted, l, now, [], false⟩
    else
      match Pace.ofDelay? d with
      | none => ⟨.granted, l, now, [], false⟩
      | some pace =>
        let found := l.keepPace service pace now
        { found.limiter.acquire sleep fuel service (Scale.ratio 1 1) (.upTo timeout) now with
          isPaced := found.isNew }

end Limiter

end ReleaseSearch
