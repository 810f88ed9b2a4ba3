import Mathlib.Tactic.FieldSimp
import Mathlib.Tactic.Linarith
import Mathlib.Tactic.Ring
import ReleaseSearch.Limiter.Bucket
import ReleaseSearch.Proofs.Decimal.Scale

/-!
# Asking a bucket for tokens

Time and tokens are exact here.  `Bucket.Serves` lists what can come of asking a bucket for tokens
and being ready to wait: they are there, the wait would be too long, or one sleep brings them.  The
main statement is that nothing else comes of it:

    b.acquire sleep fuel n (.upTo timeout) now   is one of   b.Serves sleep n timeout now

as long as a sleep takes at least the time that was asked for.
-/

namespace ReleaseSearch.Limiter

open Decimal

/-- A sleep that takes at least the time that was asked for. -/
def IsSound (sleep : Rat → Rat → Rat) : Prop := ∀ now wait, 0 ≤ wait → now + wait ≤ sleep now wait

theorem exactly_isSound : IsSound exactly := fun _ _ _ => le_refl _

theorem le_exactly (now wait : Rat) (hwait : 0 ≤ wait) : now ≤ exactly now wait :=
  le_add_of_nonneg_right hwait

def Turn.slept (wait : Rat) (turn : Turn Rat) : Turn Rat :=
  { turn with sleeps := wait :: turn.sleeps }

namespace Bucket

/-! ## Tokens -/

section Parts

variable (b : Bucket Rat) (now n : Rat)

@[simp] theorem refill_pace : (b.refill now).pace = b.pace := rfl

@[simp] theorem refill_filledAt : (b.refill now).filledAt = now := rfl

theorem refill_tokens :
    (b.refill now).tokens =
      min (b.pace.capacity : Rat) (b.tokens + (now - b.filledAt) * b.pace.rate) := by
  show Scale.least (Scale.ofInt b.pace.capacity) (b.tokens + (now - b.filledAt) * b.pace.rate) = _
  rw [Scale.least_eq_min, Scale.ofInt_eq_cast]

@[simp] theorem take_filledAt : (b.take n).filledAt = b.filledAt := rfl

@[simp] theorem take_tokens : (b.take n).tokens = b.tokens - n := rfl

/-- A bucket never holds more than its capacity. -/
theorem refill_tokens_le : (b.refill now).tokens ≤ b.pace.capacity := by
  rw [refill_tokens]
  exact min_le_left _ _

end Parts

/-- **Gains add up**: looking at a bucket in between changes nothing. -/
theorem refill_refill {b : Bucket Rat} (hrate : 0 ≤ b.pace.rate) {s t : Rat} (hst : s ≤ t) :
    (b.refill s).refill t = b.refill t := by
  have hgained : 0 ≤ (t - s) * b.pace.rate := mul_nonneg (sub_nonneg.mpr hst) hrate
  have htokens : ((b.refill s).refill t).tokens = (b.refill t).tokens := by
    simp only [refill_tokens, refill_pace, refill_filledAt]
    -- What is gained later cannot fall below the capacity, so the first limit does not show.
    rw [min_add, ← min_assoc, min_eq_left (le_add_of_nonneg_right hgained)]
    congr 1
    ring
  exact congrArg (fun tokens => { b with tokens := tokens, filledAt := t }) htokens

/-- How long the missing tokens need to come. -/
def delayFor (b : Bucket Rat) (n : Rat) : Rat := (n - b.tokens) / b.pace.rate

theorem wait?_eq_some {b : Bucket Rat} (hrate : 0 < b.pace.rate) (n : Rat) :
    b.wait? n = some (b.delayFor n) := by
  unfold wait?
  rw [if_neg (by simpa using hrate.ne')]
  rfl

theorem delayFor_pos {b : Bucket Rat} (hrate : 0 < b.pace.rate) {n : Rat} (hshort : b.tokens < n) :
    0 < b.delayFor n := div_pos (sub_pos.mpr hshort) hrate

/-- A wait takes time, as tokens are missing and more are gained. -/
theorem pos_of_wait? {b : Bucket Rat} (hrate : 0 ≤ b.pace.rate) {n wait : Rat}
    (hshort : b.tokens < n) (hwait : b.wait? n = some wait) : 0 < wait := by
  have hpos : 0 < b.pace.rate := by
    refine hrate.lt_of_ne fun hzero => ?_
    unfold wait? at hwait
    rw [if_pos (by simpa using hzero.symm)] at hwait
    cases hwait
  rw [wait?_eq_some hpos] at hwait
  cases hwait
  exact delayFor_pos hpos hshort

/-- After the wait the missing tokens are there, if the bucket can hold so many. -/
theorem le_refill_of_waited {b : Bucket Rat} (hrate : 0 < b.pace.rate) {n later : Rat}
    (hn : n ≤ b.pace.capacity) (hlater : b.filledAt + b.delayFor n ≤ later) :
    n ≤ (b.refill later).tokens := by
  rw [refill_tokens]
  refine le_min hn ?_
  have hgain : n - b.tokens ≤ (later - b.filledAt) * b.pace.rate := by
    rw [← div_le_iff₀ hrate]
    unfold delayFor at hlater
    linarith
  linarith

/-! ## One look -/

section Look

variable {sleep : Rat → Rat → Rat} {n timeout start now : Rat} {patience : Patience Rat}
  {fuel : Nat} {b : Bucket Rat}

theorem acquireFrom_of_enough (h : n ≤ (b.refill now).tokens) :
    acquireFrom sleep n patience start fuel now b = ⟨.granted, (b.refill now).take n, now, []⟩ := by
  unfold acquireFrom
  rw [if_pos (Scale.atLeast_eq_true_iff.mpr h)]

theorem acquireFrom_of_exceeded (hshort : (b.refill now).tokens < n) (hrate : 0 < b.pace.rate)
    (hlong : timeout < (now - start) + (b.refill now).delayFor n) :
    acquireFrom sleep n (.upTo timeout) start fuel now b =
      ⟨.exceeded ((b.refill now).delayFor n), b.refill now, now, []⟩ := by
  unfold acquireFrom
  rw [if_neg (by simpa using hshort)]
  simp only [wait?_eq_some (b := b.refill now) hrate]
  rw [if_pos (Scale.less_eq_true_iff.mpr hlong)]

theorem acquireFrom_of_sleep (hshort : (b.refill now).tokens < n) (hrate : 0 < b.pace.rate)
    (hsoon : (now - start) + (b.refill now).delayFor n ≤ timeout) :
    acquireFrom sleep n (.upTo timeout) start (fuel + 1) now b =
      (acquireFrom sleep n (.upTo timeout) start fuel (sleep now ((b.refill now).delayFor n))
        (b.refill now)).slept ((b.refill now).delayFor n) := by
  have hless : ¬ Scale.less timeout ((now - start) + (b.refill now).delayFor n) = true := by
    rw [Scale.less_eq_true_iff]
    exact not_lt.mpr hsoon
  rw [acquireFrom]
  rw [if_neg (by simpa using hshort)]
  simp only [wait?_eq_some (b := b.refill now) hrate]
  rw [if_neg hless]
  rfl

end Look

/-- A turn that was not granted leaves what time has brought. -/
theorem acquireFrom_of_ungranted {sleep : Rat → Rat → Rat}
    (hsleep : ∀ now wait, 0 ≤ wait → now ≤ sleep now wait) (n : Rat) (patience : Patience Rat)
    (start : Rat) (fuel : Nat) {now : Rat} {b : Bucket Rat} (hrate : 0 ≤ b.pace.rate)
    (h : (acquireFrom sleep n patience start fuel now b).answer ≠ .granted) :
    now ≤ (acquireFrom sleep n patience start fuel now b).now ∧
      (acquireFrom sleep n patience start fuel now b).bucket =
        b.refill (acquireFrom sleep n patience start fuel now b).now := by
  fun_induction acquireFrom sleep n patience start fuel now b with
  | case1 => exact absurd rfl h
  | case2 | case3 | case4 | case5 => exact ⟨le_rfl, rfl⟩
  | case6 now b refilled hshort timeout hpatience wait hwait _ fuel ih =>
      subst hpatience
      have hpos : 0 < wait :=
        pos_of_wait? (b := refilled) hrate (by simpa using hshort) hwait
      have hlater : now ≤ sleep now wait := hsleep now wait hpos.le
      obtain ⟨hclock, hbucket⟩ := ih hrate h
      exact ⟨hlater.trans hclock, hbucket.trans (refill_refill hrate (hlater.trans hclock))⟩

/-! ## The whole turn -/

/-- What can come of asking for `n` tokens, of which the bucket can hold so many, and being ready
to wait. -/
inductive Serves (sleep : Rat → Rat → Rat) (n timeout now : Rat) (b : Bucket Rat) :
    Turn Rat → Prop
  | atOnce (henough : n ≤ (b.refill now).tokens) :
      Serves sleep n timeout now b ⟨.granted, (b.refill now).take n, now, []⟩
  | exceeded (hshort : (b.refill now).tokens < n) (hlong : timeout < (b.refill now).delayFor n) :
      Serves sleep n timeout now b
        ⟨.exceeded ((b.refill now).delayFor n), b.refill now, now, []⟩
  | afterSleep {later : Rat} (hshort : (b.refill now).tokens < n)
      (hsoon : (b.refill now).delayFor n ≤ timeout)
      (hlater : later = sleep now ((b.refill now).delayFor n))
      (henough : n ≤ ((b.refill now).refill later).tokens) :
      Serves sleep n timeout now b
        ⟨.granted, ((b.refill now).refill later).take n, later, [(b.refill now).delayFor n]⟩

/-- **One sleep is enough**, so a turn ends in one of three ways. -/
theorem acquire_serves {sleep : Rat → Rat → Rat} (hsleep : IsSound sleep) {b : Bucket Rat}
    (hrate : 0 < b.pace.rate) {n : Rat} (hn : n ≤ b.pace.capacity) {fuel : Nat} (hfuel : 0 < fuel)
    (timeout now : Rat) :
    b.Serves sleep n timeout now (b.acquire sleep fuel n (.upTo timeout) now) := by
  obtain ⟨fuel, rfl⟩ := Nat.exists_eq_succ_of_ne_zero hfuel.ne'
  unfold acquire
  rcases le_or_gt n (b.refill now).tokens with henough | hshort
  · rw [acquireFrom_of_enough henough]
    exact .atOnce henough
  -- One sleep is enough: after it the bucket holds what was asked for.
  · rcases lt_or_ge timeout ((b.refill now).delayFor n) with hlong | hsoon
    · rw [acquireFrom_of_exceeded hshort hrate (by rwa [sub_self, zero_add])]
      exact .exceeded hshort hlong
    · have hlater : (b.refill now).filledAt + (b.refill now).delayFor n ≤
          sleep now ((b.refill now).delayFor n) :=
        hsleep now _ (delayFor_pos (b := b.refill now) hrate hshort).le
      have henough : n ≤ ((b.refill now).refill (sleep now ((b.refill now).delayFor n))).tokens :=
        le_refill_of_waited (b := b.refill now) hrate hn hlater
      rw [acquireFrom_of_sleep hshort hrate (by rwa [sub_self, zero_add]),
        acquireFrom_of_enough henough]
      exact .afterSleep hshort hsoon rfl henough

end Bucket

end ReleaseSearch.Limiter
