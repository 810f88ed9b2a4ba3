import ReleaseSearch.Log.Basic
import ReleaseSearch.Settings

/-!
# Trying again

An operation that fails for a passing reason is tried again.  Before each new attempt there is a
delay, which grows from attempt to attempt up to a limit; a failure may suggest a delay of its own,
which counts instead.

The attempts are a function from their number to their outcome, and the kinds of failures and
delays are parameters.  Trying is written twice: `run` waits where it stands, for the operation and
for the time to pass; a `Task` is put off whenever it has to wait, and is resumed later.
-/

namespace ReleaseSearch.Retry

open Decimal

class Delay (δ : Type) where
  /-- The delay that grows from a first delay by a factor at each of some steps, if it is within
  range. -/
  grown? : δ → δ → Nat → Option δ
  /-- The smaller of two delays, the first if neither is. -/
  least : δ → δ → δ
  /-- The delay that a number is, if it is one. -/
  ofNumber? : Number → Option δ
  isZero : δ → Bool

instance : Delay Number where
  grown? base factor n := do base.mul? (← factor.pow? n)
  least := Number.least
  ofNumber? := some
  isZero := Number.isZero

instance : Delay Rat where
  grown? base factor n := some (base * factor ^ n)
  least a b := if b < a then b else a
  ofNumber? := Number.fraction?
  isZero x := x == 0

/-- When an operation is tried again, and after how long. -/
structure Policy (ε δ : Type) where
  /-- How often to try again; a negative number allows no attempt at all. -/
  retries : Int
  base : δ
  factor : δ
  limit : δ
  /-- Whether a failure passes. -/
  mayRetry : ε → Bool
  /-- The delay that a failure suggests. -/
  suggestion : ε → Option δ

inductive Ending (ε β : Type) where
  | value (b : β)
  | failed (e : ε)
  /-- The next delay is out of range. -/
  | tooLong
  /-- No attempt was allowed. -/
  | untried

/-- What is to be told about an attempt. -/
inductive Report (ε δ : Type) where
  /-- An attempt failed, and there is another one after a delay. -/
  | again (attempt : Nat) (e : ε) (delay : δ)
  /-- The last attempt failed. -/
  | exhausted (e : ε)

inductive Step (ε δ : Type) where
  /-- The operation is called. -/
  | called
  | reported (r : Report ε δ)
  | slept (delay : δ)

/-- All that trying comes to: how it ends, and what was done until then, oldest first. -/
structure Course (ε β δ : Type) where
  ending : Ending ε β
  steps : List (Step ε δ)

namespace Course

variable {ε β δ : Type}

def calls (c : Course ε β δ) : Nat :=
  c.steps.countP fun
    | .called => true
    | _ => false

/-- What was told about the attempts, oldest first. -/
def reports (c : Course ε β δ) : List (Report ε δ) :=
  c.steps.filterMap fun
    | .reported r => some r
    | _ => none

/-- The delays between the attempts, oldest first. -/
def sleeps (c : Course ε β δ) : List δ :=
  c.steps.filterMap fun
    | .slept delay => some delay
    | _ => none

def after (steps : List (Step ε δ)) (c : Course ε β δ) : Course ε β δ :=
  { c with steps := steps ++ c.steps }

end Course

variable {ε β δ : Type} [Delay δ]

/-- The delay after a failed attempt, attempts being counted from zero. -/
def Policy.delay? (p : Policy ε δ) (attempt : Nat) (e : ε) : Option δ := do
  let grown ← Delay.grown? p.base p.factor attempt
  return Delay.least ((p.suggestion e).getD grown) p.limit

/-- Goes on trying, with some attempts left after the next one. -/
def runFrom (p : Policy ε δ) (call : Nat → Except ε β) : Nat → Nat → Course ε β δ
  | left, attempt =>
    match call attempt with
    | .ok b => { ending := .value b, steps := [.called] }
    | .error e =>
      if !p.mayRetry e then { ending := .failed e, steps := [.called] }
      else
        match left with
        | 0 => { ending := .failed e, steps := [.called, .reported (.exhausted e)] }
        | left + 1 =>
          match p.delay? attempt e with
          | none => { ending := .tooLong, steps := [.called] }
          | some delay =>
            (runFrom p call left (attempt + 1)).after
              [.called, .reported (.again attempt e delay), .slept delay]

/-- Tries an operation, and again as the policy says. -/
def run (p : Policy ε δ) (call : Nat → Except ε β) : Course ε β δ :=
  if p.retries < 0 then { ending := .untried, steps := [] } else runFrom p call p.retries.toNat 0

/-! ## Tasks -/

/-- Trying that is put off whenever it has to wait. -/
inductive Task (ε β δ : Type) where
  | ended (ending : Ending ε β)
  /-- Waits for the operation, and goes on with its outcome. -/
  | call (resume : Except ε β → Task ε β δ)
  | report (r : Report ε δ) (next : Task ε β δ)
  /-- Waits for some time to pass. -/
  | sleep (delay : δ) (next : Task ε β δ)

namespace Task

/-- The task of going on with trying, with some attempts left after the next one. -/
def tryFrom (p : Policy ε δ) : Nat → Nat → Task ε β δ
  | left, attempt => .call fun
    | .ok b => .ended (.value b)
    | .error e =>
      if !p.mayRetry e then .ended (.failed e)
      else
        match left with
        | 0 => .report (.exhausted e) (.ended (.failed e))
        | left + 1 =>
          match p.delay? attempt e with
          | none => .ended .tooLong
          | some delay =>
            .report (.again attempt e delay) (.sleep delay (tryFrom p left (attempt + 1)))

/-- The task of trying an operation, and again as the policy says. -/
def start (p : Policy ε δ) : Task ε β δ :=
  if p.retries < 0 then .ended .untried else tryFrom p p.retries.toNat 0

/-- What a task comes to, with the operation called a number of times before. -/
def follow (outcome : Nat → Except ε β) : Task ε β δ → Nat → Course ε β δ
  | ended ending, _ => { ending := ending, steps := [] }
  | call resume, n => (follow outcome (resume (outcome n)) (n + 1)).after [.called]
  | report r next, n => (follow outcome next n).after [.reported r]
  | sleep delay next, n => (follow outcome next n).after [.slept delay]

end Task

/-! ## Troubles -/

/-- The names of the kinds of failures that pass, unless others are asked for. -/
def passing : List String := ["NetworkRetryableError", "RateLimitedError"]

/-- The names of a trouble and of the more general ones that it belongs to. -/
def lineage : Trouble → List String
  | .failure f => f.kind.lineage
  | .breakdown (.foreign _) => ["RuntimeError"]
  | .breakdown (.badValue _) => ["ValueError"]
  | _ => []

/-- The delay that a trouble suggests; zero suggests none. -/
def suggestion (t : Trouble) : Option δ := do
  let .failure f := t | none
  let delay ← Delay.ofNumber? (← f.kind.retryAfter?)
  if Delay.isZero delay then none else some delay

/-- The policy that tries again after troubles of some kinds, which are given by their names. -/
def Policy.forTroubles (retries : Int) (base factor limit : δ) (passing : List String) :
    Policy Trouble δ where
  retries := retries
  base := base
  factor := factor
  limit := limit
  mayRetry := fun t => (lineage t).any (passing.contains ·)
  suggestion := Retry.suggestion

/-- What may be said about a policy; the settings say the rest. -/
structure Request where
  retries : Option Number := none
  base : Option Number := none
  factor : Option Number := none
  limit : Number := .real 60
  /-- The names of the kinds of troubles that pass. -/
  passing : List String := Retry.passing

/-- The policy that is asked for, if its number of retries is a whole number. -/
def Request.policy? (r : Request) (settings : Settings) : Option (Policy Trouble Number) :=
  match r.retries.getD settings.maxRetries with
  | .real _ => none
  | .whole n =>
    some (.forTroubles n (r.base.getD settings.retryBaseDelay)
      (r.factor.getD settings.retryGrowth) r.limit r.passing)

def source : String := "scoutarr.services.exceptions"

/-- The entry for a report on the operation of a name, for a number of retries that can be written:
one of more than 4300 digits cannot. -/
def Report.entry (p : Policy Trouble Number) (name : String) : Report Trouble Number → Entry
  | .again attempt e delay =>
    { level := .warning
      source := source
      message := "Attempt " ++ intText (attempt + 1) ++ "/" ++ intText p.retries ++ " failed for "
        ++ name ++ ": " ++ e.text ++ ". Retrying in " ++ delay.text ++ "s..." }
  | .exhausted e =>
    { level := .error
      source := source
      message := "Max retries (" ++ intText p.retries ++ ") exceeded for " ++ name
        ++ ". Final error: " ++ e.text }

end ReleaseSearch.Retry
