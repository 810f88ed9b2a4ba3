import Mathlib.Algebra.BigOperators.Group.List.Basic
import ReleaseSearch.Proofs.Limiter.Bucket

/-!
# What a bucket gives away

A run of `Ask`s draws from one bucket.  An ask is an uninterrupted part of a request: all of it, if
nobody else asks while it sleeps, or one of the looks between its sleeps.  So a run may be of any
requests, and they may wait at the same time.  The main statement is that no stretch of time sees
more tokens granted than a full bucket holds and gains in it,

    tokensWithin s t (b.grants run) ≤ b.pace.capacity + b.pace.rate * (t - s)

and that the tokens in the bucket stay between none and its capacity (`allowance`).

One ask keeps an account: the tokens that it leaves and those that it takes were there, or were
gained since the bucket was last filled (`Turn.Accounts`).  Two inductions on the run follow: one
over the tokens that are granted up to a time, and from it one over those that are granted between
two times.
-/

namespace ReleaseSearch.Limiter

open Decimal

/-! ## Asks and grants -/

/-- An uninterrupted part of a request that began at `start`, from `now` on.  It ends with an answer
or, still waiting, after `fuel` sleeps. -/
structure Ask where
  tokens : Rat
  patience : Patience Rat
  start : Rat
  now : Rat
  sleep : Rat → Rat → Rat
  fuel : Nat

/-- Tokens that are not fewer than none, and a clock that is not turned back by a sleep. -/
structure Ask.IsSound (a : Ask) : Prop where
  tokens : 0 ≤ a.tokens
  clock : ∀ now wait, 0 ≤ wait → now ≤ a.sleep now wait

def Ask.turn (a : Ask) (b : Bucket Rat) : Turn Rat :=
  b.acquireFrom a.sleep a.tokens a.patience a.start a.fuel a.now

/-- A whole request that nobody interrupts. -/
def Ask.whole (sleep : Rat → Rat → Rat) (fuel : Nat) (n : Rat) (patience : Patience Rat)
    (now : Rat) : Ask := ⟨n, patience, now, now, sleep, fuel⟩

/-- Tokens that were granted, and when. -/
structure Grant where
  time : Rat
  tokens : Rat

/-- What a turn grants of the `n` tokens that were asked for. -/
def Turn.grants (n : Rat) (turn : Turn Rat) : List Grant :=
  match turn.answer with
  | .granted => [⟨turn.now, n⟩]
  | _ => []

def allTokens (grants : List Grant) : Rat := (grants.map (·.tokens)).sum

/-- The tokens that were granted between two times, these included. -/
def tokensWithin (s t : Rat) (grants : List Grant) : Rat :=
  allTokens (grants.filter fun g => s ≤ g.time ∧ g.time ≤ t)

namespace Bucket

def after (b : Bucket Rat) (run : List Ask) : Bucket Rat :=
  run.foldl (fun b a => (a.turn b).bucket) b

/-- The tokens that are granted in a run, oldest first. -/
def grants : Bucket Rat → List Ask → List Grant
  | _, [] => []
  | b, a :: run => (a.turn b).grants a.tokens ++ grants (a.turn b).bucket run

/-- The clock is never read with an earlier time than before.  The bucket was last filled when it
was last read. -/
def InOrder : Bucket Rat → List Ask → Prop
  | _, [] => True
  | b, a :: run => b.filledAt ≤ a.now ∧ InOrder (a.turn b).bucket run

/-- The tokens are between none and the capacity, and more are gained. -/
structure IsFair (b : Bucket Rat) : Prop where
  rate : 0 < b.pace.rate
  nonneg : 0 ≤ b.tokens
  le_capacity : b.tokens ≤ b.pace.capacity

/-- A new bucket is full. -/
theorem isFair_full (service : String) (number : Nat) {pace : Pace Rat} (hrate : 0 < pace.rate)
    (hcapacity : 0 ≤ pace.capacity) (now : Rat) : (full service number pace now).IsFair where
  rate := hrate
  nonneg := by simpa [full] using hcapacity
  le_capacity := by simp [full]

theorem IsFair.capacity_nonneg {b : Bucket Rat} (h : b.IsFair) : (0 : Rat) ≤ b.pace.capacity :=
  h.nonneg.trans h.le_capacity

end Bucket

/-! ## The account of one ask -/

/-- What is granted is granted at the end of the turn. -/
theorem Turn.time_of_mem_grants {n : Rat} {turn : Turn Rat} {g : Grant}
    (h : g ∈ turn.grants n) : g.time = turn.now := by
  unfold Turn.grants at h
  split at h
  · rw [List.mem_singleton.mp h]
  · cases h

theorem Turn.allTokens_nonneg {n : Rat} (hn : 0 ≤ n) (turn : Turn Rat) :
    0 ≤ allTokens (turn.grants n) := by
  unfold Turn.grants
  split <;> simp [allTokens, hn]

/-- What a turn does to the tokens of the bucket that was asked for `n` of them. -/
structure Turn.Accounts (b : Bucket Rat) (n : Rat) (turn : Turn Rat) : Prop where
  pace : turn.bucket.pace = b.pace
  filledAt : turn.bucket.filledAt = turn.now
  nonneg : 0 ≤ turn.bucket.tokens
  le_capacity : turn.bucket.tokens + allTokens (turn.grants n) ≤ b.pace.capacity
  le_gained : turn.bucket.tokens + allTokens (turn.grants n) ≤
    b.tokens + (turn.now - b.filledAt) * b.pace.rate

section Account

variable {b : Bucket Rat} {now n : Rat}

theorem Bucket.refill_tokens_le_gained (b : Bucket Rat) (now : Rat) :
    (b.refill now).tokens ≤ b.tokens + (now - b.filledAt) * b.pace.rate := by
  rw [refill_tokens]
  exact min_le_right _ _

/-- Tokens are not lost as time goes on. -/
theorem Bucket.IsFair.refill (h : b.IsFair) (hnow : b.filledAt ≤ now) : (b.refill now).IsFair where
  rate := h.rate
  nonneg := by
    have hgained : 0 ≤ (now - b.filledAt) * b.pace.rate :=
      mul_nonneg (sub_nonneg.mpr hnow) h.rate.le
    rw [refill_tokens]
    exact le_min h.capacity_nonneg (add_nonneg h.nonneg hgained)
  le_capacity := b.refill_tokens_le now

/-- Looking at a bucket takes nothing. -/
theorem Turn.accounts_refill (h : b.IsFair) (hnow : b.filledAt ≤ now) {answer : Answer Rat}
    (hanswer : answer ≠ .granted) : Turn.Accounts b n ⟨answer, b.refill now, now, []⟩ := by
  have hnone : Turn.grants n ⟨answer, b.refill now, now, []⟩ = [] := by
    cases answer <;> first | rfl | exact absurd rfl hanswer
  constructor
  case pace => rfl
  case filledAt => rfl
  case nonneg => exact (h.refill hnow).nonneg
  case le_capacity => simpa [hnone, allTokens] using b.refill_tokens_le now
  case le_gained => simpa [hnone, allTokens] using b.refill_tokens_le_gained now

/-- Tokens that are there can be taken. -/
theorem Turn.accounts_take (henough : n ≤ (b.refill now).tokens) :
    Turn.Accounts b n ⟨.granted, (b.refill now).take n, now, []⟩ where
  pace := rfl
  filledAt := rfl
  nonneg := sub_nonneg.mpr henough
  le_capacity := by simpa [Turn.grants, allTokens] using b.refill_tokens_le now
  le_gained := by simpa [Turn.grants, allTokens] using b.refill_tokens_le_gained now

/-- Filling the bucket before the turn changes nothing in its account. -/
theorem Turn.Accounts.of_refill {turn : Turn Rat} (h : Turn.Accounts (b.refill now) n turn) :
    Turn.Accounts b n turn where
  pace := h.pace
  filledAt := h.filledAt
  nonneg := h.nonneg
  le_capacity := h.le_capacity
  le_gained := by
    calc turn.bucket.tokens + allTokens (turn.grants n)
        ≤ (b.refill now).tokens + (turn.now - now) * b.pace.rate := h.le_gained
      _ ≤ b.tokens + (now - b.filledAt) * b.pace.rate + (turn.now - now) * b.pace.rate :=
          by gcongr; exact b.refill_tokens_le_gained now
      _ = b.tokens + (turn.now - b.filledAt) * b.pace.rate := by ring

/-- A sleep before the turn changes nothing either. -/
theorem Turn.Accounts.slept {turn : Turn Rat} (h : Turn.Accounts b n turn) (wait : Rat) :
    Turn.Accounts b n (turn.slept wait) :=
  ⟨h.pace, h.filledAt, h.nonneg, h.le_capacity, h.le_gained⟩

theorem Turn.Accounts.isFair {turn : Turn Rat} (h : Turn.Accounts b n turn) (hfair : b.IsFair)
    (hn : 0 ≤ n) : turn.bucket.IsFair where
  rate := h.pace ▸ hfair.rate
  nonneg := h.nonneg
  le_capacity := by
    rw [h.pace]
    linarith [h.le_capacity, turn.allTokens_nonneg hn]

end Account

namespace Bucket

/-- **One ask**, however often it sleeps, keeps the account, and the clock is not turned back. -/
theorem acquireFrom_accounts {sleep : Rat → Rat → Rat}
    (hsleep : ∀ now wait, 0 ≤ wait → now ≤ sleep now wait) (n : Rat) (patience : Patience Rat)
    (start : Rat) (fuel : Nat) {now : Rat} {b : Bucket Rat} (hfair : b.IsFair)
    (hnow : b.filledAt ≤ now) :
    Turn.Accounts b n (b.acquireFrom sleep n patience start fuel now) ∧
      now ≤ (b.acquireFrom sleep n patience start fuel now).now := by
  fun_induction Bucket.acquireFrom sleep n patience start fuel now b with
  | case1 fuel now b refilled henough =>
      exact ⟨Turn.accounts_take (Scale.atLeast_eq_true_iff.mp henough), le_rfl⟩
  | case2 | case3 | case4 | case5 => exact ⟨Turn.accounts_refill hfair hnow (by simp), le_rfl⟩
  | case6 now b refilled hshort timeout hpatience wait hwait _ fuel ih =>
      subst hpatience
      have hrefilled : refilled.IsFair := hfair.refill hnow
      have hpos : 0 ≤ wait := (pos_of_wait? hrefilled.rate.le (by simpa using hshort) hwait).le
      have hlater : now ≤ sleep now wait := hsleep now wait hpos
      obtain ⟨haccounts, hclock⟩ := ih hrefilled hlater
      exact ⟨haccounts.of_refill.slept wait, hlater.trans hclock⟩

end Bucket

/-! ## Runs -/

section Run

variable {b : Bucket Rat} {a : Ask} {run : List Ask} {s t : Rat}

theorem Ask.accounts (ha : a.IsSound) (hfair : b.IsFair) (hnow : b.filledAt ≤ a.now) :
    Turn.Accounts b a.tokens (a.turn b) ∧ a.now ≤ (a.turn b).now :=
  Bucket.acquireFrom_accounts ha.clock a.tokens a.patience a.start a.fuel hfair hnow

theorem Ask.turn_isFair (ha : a.IsSound) (hfair : b.IsFair) (hnow : b.filledAt ≤ a.now) :
    (a.turn b).bucket.IsFair :=
  (a.accounts ha hfair hnow).1.isFair hfair ha.tokens

theorem tokensWithin_append (grants more : List Grant) :
    tokensWithin s t (grants ++ more) = tokensWithin s t grants + tokensWithin s t more := by
  simp [tokensWithin, allTokens]

/-- The grants of a turn all count, or none does. -/
theorem tokensWithin_turn (n : Rat) (turn : Turn Rat) :
    tokensWithin s t (turn.grants n) =
      if s ≤ turn.now ∧ turn.now ≤ t then allTokens (turn.grants n) else 0 := by
  unfold tokensWithin
  split
  · next hwithin =>
    rw [List.filter_eq_self.mpr]
    intro g hg
    simpa [Turn.time_of_mem_grants hg] using hwithin
  · next hout =>
    rw [List.filter_eq_nil_iff.mpr]
    · rfl
    · intro g hg
      simpa [Turn.time_of_mem_grants hg] using hout

theorem tokensWithin_turn_le {n : Rat} (hn : 0 ≤ n) (turn : Turn Rat) :
    tokensWithin s t (turn.grants n) ≤ allTokens (turn.grants n) := by
  rw [tokensWithin_turn]
  split
  · exact le_rfl
  · exact turn.allTokens_nonneg hn

namespace Bucket

/-- The beginning of a run is in order as well. -/
theorem InOrder.of_append {rest : List Ask} (h : b.InOrder (run ++ rest)) : b.InOrder run := by
  induction run generalizing b with
  | nil => trivial
  | cons a run ih => exact ⟨h.1, ih h.2⟩

/-- **A whole run** leaves a fair bucket of the same pace. -/
theorem after_isFair (hfair : b.IsFair) (hsound : ∀ a ∈ run, a.IsSound) (horder : b.InOrder run) :
    (b.after run).IsFair ∧ (b.after run).pace = b.pace := by
  induction run generalizing b with
  | nil => exact ⟨hfair, rfl⟩
  | cons a run ih =>
      obtain ⟨ha, hrest⟩ := List.forall_mem_cons.mp hsound
      obtain ⟨hnow, horder⟩ := horder
      obtain ⟨hafter, hpace⟩ := ih (a.turn_isFair ha hfair hnow) hrest horder
      exact ⟨hafter, hpace.trans (a.accounts ha hfair hnow).1.pace⟩

/-- A run grants nothing before it begins. -/
theorem tokensWithin_eq_zero (hfair : b.IsFair) (hsound : ∀ a ∈ run, a.IsSound)
    (horder : b.InOrder run) (ht : t < b.filledAt) : tokensWithin s t (b.grants run) = 0 := by
  induction run generalizing b with
  | nil => rfl
  | cons a run ih =>
      obtain ⟨ha, hrest⟩ := List.forall_mem_cons.mp hsound
      obtain ⟨hnow, horder⟩ := horder
      obtain ⟨haccounts, hclock⟩ := a.accounts ha hfair hnow
      have hlater : t < (a.turn b).now := ht.trans_le (hnow.trans hclock)
      have hfilled : t < (a.turn b).bucket.filledAt := haccounts.filledAt ▸ hlater
      rw [grants, tokensWithin_append, tokensWithin_turn, if_neg (fun h => hlater.not_ge h.2),
        ih (a.turn_isFair ha hfair hnow) hrest horder hfilled, add_zero]

/-- Up to a time a run grants no more than the tokens that were there and those that were gained. -/
theorem tokensWithin_le_gained (hfair : b.IsFair) (hsound : ∀ a ∈ run, a.IsSound)
    (horder : b.InOrder run) (ht : b.filledAt ≤ t) :
    tokensWithin s t (b.grants run) ≤ b.tokens + (t - b.filledAt) * b.pace.rate := by
  -- On the run: what a turn grants is paid by what the bucket held and gained before it, and the
  -- turns after it by what is left.
  induction run generalizing b with
  | nil => exact add_nonneg hfair.nonneg (mul_nonneg (sub_nonneg.mpr ht) hfair.rate.le)
  | cons a run ih =>
      obtain ⟨ha, hrest⟩ := List.forall_mem_cons.mp hsound
      obtain ⟨hnow, horder⟩ := horder
      obtain ⟨haccounts, hclock⟩ := a.accounts ha hfair hnow
      have hfair' := a.turn_isFair ha hfair hnow
      rw [grants, tokensWithin_append]
      rcases le_or_gt (a.turn b).now t with hturn | hturn
      · calc tokensWithin s t ((a.turn b).grants a.tokens) +
              tokensWithin s t ((a.turn b).bucket.grants run)
            ≤ allTokens ((a.turn b).grants a.tokens) +
                ((a.turn b).bucket.tokens + (t - (a.turn b).now) * b.pace.rate) := by
              rw [← haccounts.filledAt, ← haccounts.pace]
              exact add_le_add (tokensWithin_turn_le ha.tokens _)
                (ih hfair' hrest horder (haccounts.filledAt ▸ hturn))
          _ ≤ b.tokens + ((a.turn b).now - b.filledAt) * b.pace.rate +
                (t - (a.turn b).now) * b.pace.rate := by linarith [haccounts.le_gained]
          _ = b.tokens + (t - b.filledAt) * b.pace.rate := by ring
      -- this turn is over only after the span, and so are all later ones
      · rw [tokensWithin_turn, if_neg (fun h => hturn.not_ge h.2), zero_add,
          tokensWithin_eq_zero hfair' hrest horder (haccounts.filledAt ▸ hturn)]
        exact add_nonneg hfair.nonneg (mul_nonneg (sub_nonneg.mpr ht) hfair.rate.le)

/-- Between two times a run grants no more than the capacity and the tokens that are gained. -/
theorem tokensWithin_le_capacity (hfair : b.IsFair) (hsound : ∀ a ∈ run, a.IsSound)
    (horder : b.InOrder run) (hst : s ≤ t) :
    tokensWithin s t (b.grants run) ≤ b.pace.capacity + b.pace.rate * (t - s) := by
  have hallowed : 0 ≤ b.pace.capacity + b.pace.rate * (t - s) :=
    add_nonneg hfair.capacity_nonneg (mul_nonneg hfair.rate.le (sub_nonneg.mpr hst))
  induction run generalizing b with
  | nil => exact hallowed
  | cons a run ih =>
      obtain ⟨ha, hrest⟩ := List.forall_mem_cons.mp hsound
      obtain ⟨hnow, horder⟩ := horder
      obtain ⟨haccounts, hclock⟩ := a.accounts ha hfair hnow
      have hfair' := a.turn_isFair ha hfair hnow
      rw [grants, tokensWithin_append, tokensWithin_turn]
      by_cases hwithin : s ≤ (a.turn b).now ∧ (a.turn b).now ≤ t
      · -- The first turn that counts: from it on only what it left and what is gained is granted.
        have hlater := tokensWithin_le_gained (s := s) hfair' hrest horder
          (haccounts.filledAt ▸ hwithin.2)
        rw [haccounts.filledAt, haccounts.pace] at hlater
        have hgained : (t - (a.turn b).now) * b.pace.rate ≤ b.pace.rate * (t - s) := by
          rw [mul_comm]
          exact mul_le_mul_of_nonneg_left (by linarith [hwithin.1]) hfair.rate.le
        rw [if_pos hwithin]
        linarith [haccounts.le_capacity]
      · rw [if_neg hwithin, zero_add, ← haccounts.pace]
        exact ih hfair' hrest horder (haccounts.pace ▸ hallowed)

/-- **No stretch of time sees more tokens granted than a full bucket holds and gains in it**, for
every run of requests whose times do not go back, whatever they ask for and however long they are
ready to wait.  The tokens in the bucket are never fewer than none, and never more than it can
hold. -/
theorem allowance (hfair : b.IsFair) (hsound : ∀ a ∈ run, a.IsSound) (horder : b.InOrder run) :
    (∀ before, before <+: run →
      0 ≤ (b.after before).tokens ∧ (b.after before).tokens ≤ b.pace.capacity) ∧
    ∀ s t, s ≤ t →
      tokensWithin s t (b.grants run) ≤ b.pace.capacity + b.pace.rate * (t - s) := by
  constructor
  · rintro before ⟨rest, rfl⟩
    obtain ⟨hafter, hpace⟩ := after_isFair hfair
      (fun a ha => hsound a (List.mem_append_left _ ha)) horder.of_append
    exact ⟨hafter.nonneg, hpace ▸ hafter.le_capacity⟩
  · intro s t hst
    exact tokensWithin_le_capacity hfair hsound horder hst

end Bucket

end Run

/-! ## A run -/

/-- Two tokens a second, at most three. -/
def sampleBucket : Bucket Rat := .full "a" 0 ⟨2, 3⟩ 0

/-- Two requests for two tokens at once, the second of which waits, and one that would not wait. -/
def sampleRun : List Ask :=
  [.whole exactly 1 2 .none 0, .whole exactly 1 2 (.upTo 60) 0, .whole exactly 1 1 .none (3 / 4)]

/-- Half a second sees four tokens granted, and no more are allowed. -/
theorem allowance_sample :
    sampleBucket.IsFair ∧ (∀ a ∈ sampleRun, a.IsSound) ∧ sampleBucket.InOrder sampleRun ∧
      tokensWithin 0 (1 / 2) (sampleBucket.grants sampleRun) ≤ 3 + 2 * (1 / 2 - 0) ∧
      (sampleBucket.grants sampleRun).map (fun g => (g.time, g.tokens)) = [(0, 2), (1 / 2, 2)] ∧
      tokensWithin 0 (1 / 2) (sampleBucket.grants sampleRun) = 4 := by
  have hfair : sampleBucket.IsFair := Bucket.isFair_full "a" 0 (by decide +kernel) (by decide) 0
  have hexactly : ∀ now wait : Rat, 0 ≤ wait → now ≤ exactly now wait := fun now wait hwait =>
    (le_add_of_nonneg_right hwait).trans (exactly_isSound now wait hwait)
  have hsound : ∀ a ∈ sampleRun, a.IsSound := by
    intro a ha
    simp only [sampleRun, List.mem_cons, List.not_mem_nil, or_false] at ha
    rcases ha with rfl | rfl | rfl
    · exact ⟨by decide +kernel, hexactly⟩
    · exact ⟨by decide +kernel, hexactly⟩
    · exact ⟨by decide +kernel, hexactly⟩
  have horder : sampleBucket.InOrder sampleRun :=
    ⟨by decide +kernel, by decide +kernel, by decide +kernel, trivial⟩
  obtain ⟨_, hwithin⟩ := Bucket.allowance hfair hsound horder
  exact ⟨hfair, hsound, horder, hwithin 0 (1 / 2) (by decide +kernel), by decide +kernel,
    by decide +kernel⟩

end ReleaseSearch.Limiter
