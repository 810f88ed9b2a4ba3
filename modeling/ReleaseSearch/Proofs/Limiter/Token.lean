import ReleaseSearch.Proofs.Limiter.Registry

/-!
# The token of a visit

A turn looks at a bucket one or more times.  Each look lets the bucket gain what time has brought,
and only the last one may take tokens out (`Turn.Draws`).  The main statement is that a visit does
nothing else to the limiter: it draws on the bucket of its service, which it may have to make, and
all other buckets stay.
-/

namespace ReleaseSearch.Limiter

open Decimal

variable {α : Type} [Scale α]

/-! ## Turns -/

def Bucket.seen (b : Bucket α) (times : List α) : Bucket α := times.foldl Bucket.refill b

/-- What a turn does to a bucket that is asked for `n` tokens.  It takes them out once, after a look
that found so many, or not at all. -/
inductive Turn.Draws (b : Bucket α) (n : α) : Turn α → Prop
  | taken (times : List α) {sleeps : List α} {now : α}
      (henough : Scale.atLeast ((b.seen times).refill now).tokens n = true) :
      Draws b n ⟨.granted, ((b.seen times).refill now).take n, now, sleeps⟩
  | left (times : List α) {sleeps : List α} {now : α} {answer : Answer α}
      (hanswer : answer ≠ .granted) :
      Draws b n ⟨answer, (b.seen times).refill now, now, sleeps⟩

/-- A look before a turn, and a sleep after it. -/
theorem Turn.Draws.of_refill {b : Bucket α} {n now wait : α} {turn : Turn α}
    (h : Turn.Draws (b.refill now) n turn) :
    Turn.Draws b n { turn with sleeps := wait :: turn.sleeps } := by
  cases h with
  | taken times henough => exact .taken (now :: times) henough
  | left times hanswer => exact .left (now :: times) hanswer

/-- **A turn takes its tokens once, or not at all**; the induction is on the looks. -/
theorem Bucket.acquireFrom_draws (sleep : α → α → α) (n : α) (patience : Patience α) (start : α)
    (fuel : Nat) (now : α) (b : Bucket α) :
    Turn.Draws b n (acquireFrom sleep n patience start fuel now b) := by
  fun_induction acquireFrom sleep n patience start fuel now b with
  | case1 fuel now b refilled henough => exact .taken [] henough
  | case2 | case3 | case4 | case5 => exact .left [] (by simp)
  | case6 now b refilled hshort timeout hpatience wait hwait hsoon fuel ih =>
      subst hpatience
      exact ih.of_refill

/-- What a turn leaves in the bucket, by its answer. -/
theorem Turn.Draws.bucket_eq {b : Bucket α} {n : α} {turn : Turn α} (h : Turn.Draws b n turn) :
    ∃ times,
      (turn.answer = .granted →
        Scale.atLeast ((b.seen times).refill turn.now).tokens n = true ∧
          turn.bucket = ((b.seen times).refill turn.now).take n) ∧
      (turn.answer ≠ .granted → turn.bucket = (b.seen times).refill turn.now) := by
  cases h with
  | taken times henough => exact ⟨times, fun _ => ⟨henough, rfl⟩, fun h => absurd rfl h⟩
  | left times hanswer => exact ⟨times, fun h => absurd h hanswer, fun _ => rfl⟩

/-! ## Visits -/

variable {l : Limiter α} {service : String} {now timeout : α}

/-- What a visit does to the bucket that it found. -/
structure Visit.Draws (b : Bucket α) (n : α) (l : Limiter α) (visit : Visit α) : Prop where
  /-- The bucket afterwards is what one turn has left. -/
  turn : ∃ turn, Turn.Draws b n turn ∧ turn.answer = visit.answer ∧ turn.now = visit.now ∧
    visit.limiter.find? b.service = some turn.bucket
  /-- The other buckets are those of the limiter. -/
  others : ∀ other, other ≠ b.service → visit.limiter.find? other = l.find? other

theorem acquire_draws {b : Bucket α} (h : l.find? service = some b) (sleep : α → α → α)
    (fuel : Nat) (n : α) (patience : Patience α) (now : α) :
    Visit.Draws b n l (l.acquire sleep fuel service n patience now) := by
  have hservice : (b.acquire sleep fuel n patience now).bucket.service = b.service :=
    Bucket.acquireFrom_service sleep n patience now fuel now b
  rw [acquire_of_find? h]
  constructor
  · refine ⟨_, Bucket.acquireFrom_draws sleep n patience now fuel now b, rfl, rfl, ?_⟩
    rw [← hservice]
    exact find?_put_self l _
  · intro other hother
    exact find?_put_of_ne l (hservice ▸ hother)

/-- A service without a delay does not come to the limiter. -/
theorem passFor_of_free {delay : Option α}
    (h : ∀ x, delay = some x → Scale.atLeast Scale.zero x = true) (sleep : α → α → α) (fuel : Nat)
    (l : Limiter α) (service : String) (timeout now : α) :
    l.passFor sleep fuel service delay timeout now = ⟨.granted, l, now, [], false⟩ := by
  cases delay with
  | none => rfl
  | some x =>
      unfold passFor
      simp only
      rw [if_pos (h x rfl)]

/-- A service with a delay has the turn of the bucket that is kept, or made. -/
theorem passFor_of_paced {x : α} {pace : Pace α} (hpaced : ¬ Scale.atLeast Scale.zero x = true)
    (hpace : Pace.ofDelay? x = some pace) (sleep : α → α → α) (fuel : Nat) (l : Limiter α)
    (service : String) (timeout now : α) :
    l.passFor sleep fuel service (some x) timeout now =
      { (l.keepPace service pace now).limiter.acquire sleep fuel service (Scale.ratio 1 1)
          (.upTo timeout) now with
        isPaced := (l.keepPace service pace now).isNew } := by
  unfold passFor
  simp only
  rw [if_neg hpaced, hpace]

/-- **A visit draws on the bucket of its service**, and on no other. -/
theorem passFor_draws {x : α} {pace : Pace α} (hpaced : ¬ Scale.atLeast Scale.zero x = true)
    (hpace : Pace.ofDelay? x = some pace) (sleep : α → α → α) (fuel : Nat) (l : Limiter α)
    (service : String) (timeout now : α) :
    Visit.Draws (l.keepPace service pace now).bucket (Scale.ratio 1 1) l
      (l.passFor sleep fuel service (some x) timeout now) := by
  have hkept := keepPace_find? l service pace now
  have hdraws := acquire_draws hkept sleep fuel (Scale.ratio 1 1) (.upTo timeout) now
  rw [passFor_of_paced hpaced hpace]
  refine ⟨hdraws.turn, fun other hother => ?_⟩
  exact (hdraws.others other hother).trans
    (keepPace_find?_of_ne (service_of_find? hkept ▸ hother))

end ReleaseSearch.Limiter
