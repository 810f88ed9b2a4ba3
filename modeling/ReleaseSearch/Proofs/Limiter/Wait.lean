import Mathlib.Data.Rat.Floor
import ReleaseSearch.Proofs.Limiter.Bucket

/-!
# How long a request waits

A request that nobody interrupts, and whose sleeps end on time, comes to an end.  If the bucket can
hold the tokens, one sleep brings them.  If it can not, the bucket is full after the first sleep and
gains nothing by the next ones; the request ends because each sleep takes time, and all of them
together stay within the timeout.  The main statement is `Bucket.acquire_ends`.
-/

namespace ReleaseSearch.Limiter

open Decimal

namespace Bucket

variable {n timeout start now : Rat} {fuel : Nat} {b : Bucket Rat}

/-! ## The clock -/

/-- The clock goes on by the sleeps. -/
theorem acquireFrom_exactly_now (n : Rat) (patience : Patience Rat) (start : Rat) (fuel : Nat)
    (now : Rat) (b : Bucket Rat) :
    (acquireFrom exactly n patience start fuel now b).now =
      now + (acquireFrom exactly n patience start fuel now b).sleeps.sum := by
  fun_induction acquireFrom exactly n patience start fuel now b with
  | case1 | case2 | case3 | case4 | case5 => simp
  | case6 now b refilled hshort timeout hpatience wait hwait _ fuel ih =>
      subst hpatience
      rw [ih, List.sum_cons]
      unfold exactly
      ring

/-- The sleeps stay within the timeout. -/
theorem acquireFrom_exactly_sleeps (fuel : Nat) (hnow : now - start ≤ timeout) :
    now - start + (acquireFrom exactly n (.upTo timeout) start fuel now b).sleeps.sum ≤
      timeout := by
  fun_induction acquireFrom exactly n (.upTo timeout) start fuel now b with
  | case1 | case2 | case3 | case4 | case5 => simpa using hnow
  | case6 now b refilled hshort timeout' hpatience wait hwait hsoon fuel ih =>
      cases hpatience
      have hle : now - start + wait ≤ timeout := by simpa using hsoon
      have hclock : exactly now wait - start = now - start + wait := by
        unfold exactly
        ring
      rw [hclock] at ih
      rw [List.sum_cons, ← add_assoc]
      exact ih hle

/-! ## Enough sleeps -/

section Fuel

variable {sleep : Rat → Rat → Rat}

theorem acquireFrom_of_waiting (hshort : (b.refill now).tokens < n) (hrate : 0 < b.pace.rate)
    (hsoon : (now - start) + (b.refill now).delayFor n ≤ timeout) :
    (acquireFrom sleep n (.upTo timeout) start 0 now b).answer = .waiting := by
  have hless : ¬ Scale.less timeout ((now - start) + (b.refill now).delayFor n) = true := by
    rw [Scale.less_eq_true_iff]
    exact not_lt.mpr hsoon
  rw [acquireFrom]
  rw [if_neg (by simpa using hshort)]
  simp only [wait?_eq_some (b := b.refill now) hrate]
  rw [if_neg hless]

/-- A look that finds enough, or too few to wait for, is the last one under every bound. -/
theorem acquireFrom_of_settled (hrate : 0 < b.pace.rate)
    (hsettled : (b.refill now).tokens < n → timeout < (now - start) + (b.refill now).delayFor n)
    (fuel more : Nat) :
    acquireFrom sleep n (.upTo timeout) start more now b =
      acquireFrom sleep n (.upTo timeout) start fuel now b := by
  rcases le_or_gt n (b.refill now).tokens with henough | hshort
  · rw [acquireFrom_of_enough henough, acquireFrom_of_enough henough]
  · have hlong := hsettled hshort
    rw [acquireFrom_of_exceeded hshort hrate hlong, acquireFrom_of_exceeded hshort hrate hlong]

/-- A request that has ended does so under every greater bound on its sleeps, and in the same
way. -/
theorem acquireFrom_of_ended (hrate : 0 < b.pace.rate) {more : Nat} (hle : fuel ≤ more)
    (h : (acquireFrom sleep n (.upTo timeout) start fuel now b).answer ≠ .waiting) :
    acquireFrom sleep n (.upTo timeout) start more now b =
      acquireFrom sleep n (.upTo timeout) start fuel now b := by
  induction fuel generalizing now b more with
  | zero =>
      refine acquireFrom_of_settled hrate (fun hshort => ?_) 0 more
      by_contra hsoon
      exact h (acquireFrom_of_waiting hshort hrate (not_lt.mp hsoon))
  | succ fuel ih =>
      by_cases hsettled : (b.refill now).tokens < n →
          timeout < (now - start) + (b.refill now).delayFor n
      · exact acquireFrom_of_settled hrate hsettled (fuel + 1) more
      · obtain ⟨hshort, hsoon⟩ := Classical.not_imp.mp hsettled
        obtain ⟨more, rfl⟩ : ∃ fewer, more = fewer + 1 := ⟨more - 1, by omega⟩
        rw [acquireFrom_of_sleep hshort hrate (not_lt.mp hsoon)] at h ⊢
        rw [acquireFrom_of_sleep hshort hrate (not_lt.mp hsoon),
          ih (b := b.refill now) hrate (Nat.le_of_succ_le_succ hle) h]

/-- However full the bucket is, the tokens that it can not hold have to be waited for. -/
theorem least_le_delayFor (b : Bucket Rat) (hrate : 0 < b.pace.rate) (now n : Rat) :
    (n - b.pace.capacity) / b.pace.rate ≤ (b.refill now).delayFor n := by
  unfold delayFor
  rw [refill_pace]
  exact div_le_div_of_nonneg_right (sub_le_sub_left (b.refill_tokens_le now) n) hrate.le

/-- **What a bucket can not hold** is given up.  Each look finds the bucket no fuller than full, so
each sleep takes at least the time of the tokens that are always missing; the induction is on the
sleeps. -/
theorem acquireFrom_of_beyond (hsleep : IsSound sleep) (hrate : 0 < b.pace.rate)
    (hbeyond : b.pace.capacity < n)
    (hfuel : timeout < now - start + (fuel + 1) * ((n - b.pace.capacity) / b.pace.rate)) :
    ∃ wait, 0 < wait ∧
      (acquireFrom sleep n (.upTo timeout) start fuel now b).answer = .exceeded wait := by
  -- By induction on the sleeps that are left. Each of them takes at least a certain time, since the
  -- bucket can never hold enough.
  induction fuel generalizing now b with
  | zero =>
      have hshort : (b.refill now).tokens < n := (b.refill_tokens_le now).trans_lt hbeyond
      have hleast := b.least_le_delayFor hrate now n
      have hlong : timeout < now - start + (b.refill now).delayFor n := by
        rw [Nat.cast_zero, zero_add, one_mul] at hfuel
        linarith
      rw [acquireFrom_of_exceeded hshort hrate hlong]
      exact ⟨_, delayFor_pos (b := b.refill now) hrate hshort, rfl⟩
  | succ fuel ih =>
      have hshort : (b.refill now).tokens < n := (b.refill_tokens_le now).trans_lt hbeyond
      have hpos := delayFor_pos (b := b.refill now) hrate hshort
      rcases lt_or_ge timeout (now - start + (b.refill now).delayFor n) with hlong | hsoon
      · rw [acquireFrom_of_exceeded hshort hrate hlong]
        exact ⟨_, hpos, rfl⟩
      · have hleast := b.least_le_delayFor hrate now n
        have hlater := hsleep now _ hpos.le
        rw [acquireFrom_of_sleep hshort hrate hsoon]
        refine ih (b := b.refill now) hrate hbeyond ?_
        rw [refill_pace]
        push_cast at hfuel ⊢
        linarith

end Fuel

/-! ## The whole request -/

section Request

variable {sleep : Rat → Rat → Rat} {turn : Turn Rat}

theorem Serves.of_soon (h : b.Serves sleep n timeout now turn) (hshort : (b.refill now).tokens < n)
    (hsoon : (b.refill now).delayFor n ≤ timeout) :
    turn.answer = .granted ∧ turn.sleeps = [(b.refill now).delayFor n] ∧
      turn.bucket = ((b.refill now).refill turn.now).take n := by
  cases h with
  | atOnce henough => exact absurd henough hshort.not_ge
  | exceeded _ hlong => exact absurd hsoon hlong.not_ge
  | afterSleep => exact ⟨rfl, rfl, rfl⟩

theorem Serves.of_long (h : b.Serves sleep n timeout now turn) (hshort : (b.refill now).tokens < n)
    (hlong : timeout < (b.refill now).delayFor n) :
    turn.answer = .exceeded ((b.refill now).delayFor n) := by
  cases h with
  | atOnce henough => exact absurd henough hshort.not_ge
  | exceeded => rfl
  | afterSleep _ hsoon => exact absurd hsoon hlong.not_ge

/-- How many sleeps a request can have.  One is enough for tokens that the bucket can hold; for
others, each sleep takes some part of the timeout. -/
def mostSleeps (b : Bucket Rat) (n timeout : Rat) : Nat :=
  max 1 ⌊timeout / ((n - b.pace.capacity) / b.pace.rate)⌋₊

theorem mostSleeps_pos (b : Bucket Rat) (n timeout : Rat) : 0 < b.mostSleeps n timeout :=
  Nat.one_pos.trans_le (le_max_left _ _)

theorem lt_of_mostSleeps (hrate : 0 < b.pace.rate) (hbeyond : b.pace.capacity < n)
    (hfuel : b.mostSleeps n timeout ≤ fuel) :
    timeout < (fuel + 1) * ((n - b.pace.capacity) / b.pace.rate) := by
  have hleast : 0 < (n - b.pace.capacity) / b.pace.rate := div_pos (sub_pos.mpr hbeyond) hrate
  have hfloor : ⌊timeout / ((n - b.pace.capacity) / b.pace.rate)⌋₊ ≤ fuel :=
    (le_max_right _ _).trans hfuel
  rw [← div_lt_iff₀ hleast]
  calc timeout / ((n - b.pace.capacity) / b.pace.rate)
      < ⌊timeout / ((n - b.pace.capacity) / b.pace.rate)⌋₊ + 1 := Nat.lt_floor_add_one _
    _ ≤ fuel + 1 := by gcongr

/-- Tokens that are missing and come in time are there after one sleep. -/
theorem acquire_of_soon (hrate : 0 < b.pace.rate) (hfuel : 0 < fuel)
    (hshort : (b.refill now).tokens < n) (hn : n ≤ b.pace.capacity)
    (hsoon : (b.refill now).delayFor n ≤ timeout) :
    (b.acquire exactly fuel n (.upTo timeout) now).answer = .granted ∧
      (b.acquire exactly fuel n (.upTo timeout) now).sleeps = [(b.refill now).delayFor n] ∧
      (b.acquire exactly fuel n (.upTo timeout) now).bucket =
        (b.refill (b.acquire exactly fuel n (.upTo timeout) now).now).take n := by
  obtain ⟨hanswer, hsleeps, hbucket⟩ :=
    (acquire_serves exactly_isSound hrate hn hfuel timeout now).of_soon hshort hsoon
  have hlater : now ≤ (b.acquire exactly fuel n (.upTo timeout) now).now := by
    unfold acquire at hsleeps ⊢
    rw [acquireFrom_exactly_now, hsleeps, List.sum_singleton]
    exact le_add_of_nonneg_right (delayFor_pos (b := b.refill now) hrate hshort).le
  exact ⟨hanswer, hsleeps, hbucket.trans (congrArg (·.take n) (refill_refill hrate.le hlater))⟩

/-- Tokens that are missing and do not come in time are not granted. -/
theorem acquire_of_late (hrate : 0 < b.pace.rate) (hfuel : b.mostSleeps n timeout ≤ fuel)
    (hshort : (b.refill now).tokens < n)
    (hlate : n ≤ b.pace.capacity → timeout < (b.refill now).delayFor n) :
    ∃ wait, 0 < wait ∧
      (b.acquire exactly fuel n (.upTo timeout) now).answer = .exceeded wait := by
  rcases le_or_gt n b.pace.capacity with hn | hbeyond
  · have hserves := acquire_serves exactly_isSound hrate hn
      ((b.mostSleeps_pos n timeout).trans_le hfuel) timeout now
    exact ⟨_, delayFor_pos (b := b.refill now) hrate hshort, hserves.of_long hshort (hlate hn)⟩
  · refine acquireFrom_of_beyond exactly_isSound hrate hbeyond ?_
    rw [sub_self, zero_add]
    exact lt_of_mostSleeps hrate hbeyond hfuel

/-- After so many sleeps a request is granted or given up. -/
theorem acquire_ne_waiting (hrate : 0 < b.pace.rate) (n timeout now : Rat) :
    (b.acquire exactly (b.mostSleeps n timeout) n (.upTo timeout) now).answer ≠ .waiting := by
  rcases le_or_gt n (b.refill now).tokens with henough | hshort
  · unfold acquire
    rw [acquireFrom_of_enough henough]
    exact nofun
  · by_cases hintime : n ≤ b.pace.capacity ∧ (b.refill now).delayFor n ≤ timeout
    · rw [(acquire_of_soon hrate (b.mostSleeps_pos n timeout) hshort hintime.1 hintime.2).1]
      exact nofun
    · have hlate (hn : n ≤ b.pace.capacity) : timeout < (b.refill now).delayFor n :=
        not_le.mp fun hle => hintime ⟨hn, hle⟩
      obtain ⟨wait, _, hanswer⟩ := acquire_of_late hrate le_rfl hshort hlate
      rw [hanswer]
      exact nofun

/-- **A request comes to an end**, if nobody else asks and its sleeps end on time, for every state
of the bucket, every number of tokens and every timeout.

* There is a number of sleeps after which it has ended, and then it ends in one way.
* The sleeps are all the time that it takes, and they stay within the timeout.
* It is granted at once if the tokens are there.
* It is granted after one sleep, of just the time that the missing tokens need, if the bucket can
  hold the tokens and the sleep is within the timeout.
* Otherwise it ends with the wait that would be too long, and takes nothing out. -/
theorem acquire_ends (hrate : 0 < b.pace.rate) (htimeout : 0 ≤ timeout) (n now : Rat) :
    ∃ turn : Turn Rat,
      (∀ fuel, b.mostSleeps n timeout ≤ fuel →
        b.acquire exactly fuel n (.upTo timeout) now = turn) ∧
      turn.now = now + turn.sleeps.sum ∧ turn.sleeps.sum ≤ timeout ∧
      (n ≤ (b.refill now).tokens → turn = ⟨.granted, (b.refill now).take n, now, []⟩) ∧
      ((b.refill now).tokens < n → n ≤ b.pace.capacity →
        (n - (b.refill now).tokens) / b.pace.rate ≤ timeout →
          turn.answer = .granted ∧
            turn.sleeps = [(n - (b.refill now).tokens) / b.pace.rate] ∧
            turn.bucket = (b.refill turn.now).take n) ∧
      ((b.refill now).tokens < n →
        (n ≤ b.pace.capacity → timeout < (n - (b.refill now).tokens) / b.pace.rate) →
          ∃ wait, 0 < wait ∧ turn.answer = .exceeded wait ∧ turn.bucket = b.refill turn.now) := by
  have hsleeps : (b.acquire exactly (b.mostSleeps n timeout) n (.upTo timeout) now).sleeps.sum ≤
      timeout := by
    have hle := acquireFrom_exactly_sleeps (n := n) (b := b) (b.mostSleeps n timeout)
      (show now - now ≤ timeout by rwa [sub_self])
    rwa [sub_self, zero_add] at hle
  -- Beyond the most sleeps that there can be, the bound on them makes no difference.
  refine ⟨b.acquire exactly (b.mostSleeps n timeout) n (.upTo timeout) now,
    fun fuel hfuel => acquireFrom_of_ended hrate hfuel (acquire_ne_waiting hrate n timeout now),
    acquireFrom_exactly_now _ _ _ _ _ _, hsleeps, acquireFrom_of_enough,
    acquire_of_soon hrate (b.mostSleeps_pos n timeout), ?_⟩
  intro hshort hlate
  obtain ⟨wait, hpos, hanswer⟩ := acquire_of_late hrate le_rfl hshort hlate
  -- what is not granted leaves the bucket as a look at it does
  have hungranted : (b.acquire exactly (b.mostSleeps n timeout) n (.upTo timeout) now).answer ≠
      .granted := ne_of_eq_of_ne hanswer nofun
  exact ⟨wait, hpos, hanswer, (acquireFrom_of_ungranted le_exactly _ _ _ _ hrate.le hungranted).2⟩

end Request

end Bucket

/-! ## Three requests -/

/-- Two tokens a second, at most three, of which one is left. -/
def oneLeft : Bucket Rat := (Bucket.full "a" 0 ⟨2, 3⟩ 0).take 2

/-- One token is there, two are there after half a second, and five never are: that request sleeps
until the bucket is full, and is given up then. -/
theorem acquire_ends_samples :
    0 < oneLeft.pace.rate ∧ (0 : Rat) ≤ 2 ∧
      (oneLeft.acquire exactly 1 1 (.upTo 2) 0).sleeps = [] ∧
      (oneLeft.acquire exactly 1 2 (.upTo 2) 0).answer = .granted ∧
      (oneLeft.acquire exactly 1 2 (.upTo 2) 0).sleeps = [1 / 2] ∧
      (∃ wait, 0 < wait ∧ (oneLeft.acquire exactly 2 5 (.upTo 2) 0).answer = .exceeded wait) ∧
      (oneLeft.acquire exactly 2 5 (.upTo 2) 0).sleeps = [2] ∧
      (oneLeft.acquire exactly 2 5 (.upTo 2) 0).bucket = oneLeft.refill 2 := by
  have hrate : 0 < oneLeft.pace.rate := by decide +kernel
  have htimeout : (0 : Rat) ≤ 2 := by decide
  obtain ⟨first, hfirst, _, _, hthere, _, _⟩ := Bucket.acquire_ends hrate htimeout 1 0
  obtain ⟨second, hsecond, _, _, _, hsoon, _⟩ := Bucket.acquire_ends hrate htimeout 2 0
  obtain ⟨third, hthird, hnow, _, _, _, hlate⟩ := Bucket.acquire_ends hrate htimeout 5 0
  rw [hfirst 1 (by decide +kernel), hsecond 1 (by decide +kernel), hthird 2 (by decide +kernel)]
  obtain ⟨hgranted, hhalf, _⟩ := hsoon (by decide +kernel) (by decide +kernel) (by decide +kernel)
  obtain ⟨wait, hwait, hanswer, hbucket⟩ := hlate (by decide +kernel) (by decide +kernel)
  have htwo : third.sleeps = [2] := by
    rw [← hthird 2 (by decide +kernel)]
    decide +kernel
  have hend : (0 : Rat) + [(2 : Rat)].sum = 2 := by decide +kernel
  rw [hnow, htwo, hend] at hbucket
  refine ⟨hrate, htimeout, ?_, hgranted, ?_, ⟨wait, hwait, hanswer⟩, htwo, hbucket⟩
  · rw [hthere (by decide +kernel)]
  · rw [hhalf]
    decide +kernel

end ReleaseSearch.Limiter
