import ReleaseSearch.Decimal.Scale

/-!
# Token buckets

A bucket paces the requests to a service.  It holds up to `capacity` tokens, gains `rate` of them
per second and is full at first; each request takes tokens out.  A request that finds too few may
wait: it asks to sleep for as long as the missing tokens need, and then looks again.

Times and tokens are values of a `Scale`.  How time passes while a request sleeps is a parameter.
-/

namespace ReleaseSearch.Limiter

open Decimal

variable {α : Type} [Scale α]

/-- How fast a service may be asked. -/
structure Pace (α : Type) where
  /-- The tokens that are gained per second. -/
  rate : α
  /-- The most tokens that are held. -/
  capacity : Int

namespace Pace

/-- One request in `delay` seconds; there is no such pace for a delay of zero. -/
def ofDelay? (delay : α) : Option (Pace α) :=
  if Scale.isZero delay then none else some ⟨Scale.ratio 1 1 / delay, 1⟩

def same (p q : Pace α) : Bool := Scale.equal p.rate q.rate && p.capacity == q.capacity

/-- The pace of a service for which none was set. -/
def standard : Pace α := ⟨Scale.ratio 1 1, 5⟩

end Pace

/-- The tokens of a service. -/
structure Bucket (α : Type) where
  service : String
  /-- Tells the buckets of a limiter apart. -/
  number : Nat
  pace : Pace α
  tokens : α
  /-- When tokens were last gained. -/
  filledAt : α

/-- How long a request is ready to wait. -/
inductive Patience (α : Type) where
  | none
  | upTo (timeout : α)

/-- What comes of asking for tokens. -/
inductive Answer (α : Type) where
  | granted
  /-- There are too few tokens, and the request did not want to wait. -/
  | refused
  /-- There are too few tokens, and the wait would take too long. -/
  | exceeded (wait : α)
  /-- There are too few tokens, and none are gained. -/
  | never
  /-- The request still waits. -/
  | waiting

/-- The end of asking for tokens: the answer, and what it took. -/
structure Turn (α : Type) where
  answer : Answer α
  bucket : Bucket α
  now : α
  /-- The sleeps that were asked for, oldest first. -/
  sleeps : List α

namespace Bucket

def full (service : String) (number : Nat) (pace : Pace α) (now : α) : Bucket α :=
  ⟨service, number, pace, Scale.ofInt pace.capacity, now⟩

/-- The bucket after the tokens that time has brought. -/
def refill (b : Bucket α) (now : α) : Bucket α :=
  { b with
    tokens := Scale.least (Scale.ofInt b.pace.capacity)
      (b.tokens + (now - b.filledAt) * b.pace.rate)
    filledAt := now }

def take (b : Bucket α) (n : α) : Bucket α := { b with tokens := b.tokens - n }

/-- How long the missing tokens need to come; `none` if none are gained. -/
def wait? (b : Bucket α) (n : α) : Option α :=
  if Scale.isZero b.pace.rate then none else some ((n - b.tokens) / b.pace.rate)

/-- Asks for `n` tokens at the time `now`, as part of a request that began at `start`.  `sleep`
says when a sleep ends, and `fuel` bounds the number of sleeps. -/
def acquireFrom (sleep : α → α → α) (n : α) (patience : Patience α) (start : α) :
    Nat → α → Bucket α → Turn α
  | fuel, now, bucket =>
    let b := bucket.refill now
    if Scale.atLeast b.tokens n then ⟨.granted, b.take n, now, []⟩
    else
      match patience with
      | .none => ⟨.refused, b, now, []⟩
      | .upTo timeout =>
        match b.wait? n with
        | none => ⟨.never, b, now, []⟩
        | some wait =>
          if Scale.less timeout ((now - start) + wait) then ⟨.exceeded wait, b, now, []⟩
          else
            match fuel with
            | 0 => ⟨.waiting, b, now, []⟩
            | fuel + 1 =>
              let turn := acquireFrom sleep n patience start fuel (sleep now wait) b
              { turn with sleeps := wait :: turn.sleeps }

/-- Asks for `n` tokens at the time `now`. -/
def acquire (sleep : α → α → α) (fuel : Nat) (n : α) (patience : Patience α) (now : α)
    (b : Bucket α) : Turn α :=
  acquireFrom sleep n patience now fuel now b

end Bucket

/-- A sleep that ends exactly on time. -/
def exactly (now wait : α) : α := now + wait

end ReleaseSearch.Limiter
