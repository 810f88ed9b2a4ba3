import ReleaseSearch.Proofs.Decimal.Order
import ReleaseSearch.Proofs.Limiter.Token

/-!
# Turns that end

The delay of a service is a double, and it may be infinite.  At the pace of an infinite delay
nothing is gained, so a bucket that gave its token away never gets another one, and the time until
then is a quotient by zero.  The main statement is that a visit breaks down there and nowhere else,
and that every other one is granted or given up in the end.

There are only so many times, and the clock goes on.  So it would come to the end of all times, and
there a bucket that gains anything is full.
-/

namespace ReleaseSearch.Limiter

open Decimal

namespace Bucket

/-! ## Ways to end -/

section Turn

variable {α : Type} [Scale α] {sleep : α → α → α} {n timeout start now : α} {fuel : Nat}
  {b : Bucket α} {patience : Patience α}

/-- A turn that has ended does so under every greater bound on its sleeps, and in the same way. -/
theorem acquireFrom_eq_of_ended
    (h : (acquireFrom sleep n patience start fuel now b).answer ≠ .waiting) (more : Nat)
    (hle : fuel ≤ more) :
    acquireFrom sleep n patience start more now b =
      acquireFrom sleep n patience start fuel now b := by
  revert more
  -- The cases are the ways in which a request ends, and going on after a sleep. Only the last one
  -- uses the hypothesis of the induction.
  fun_induction acquireFrom sleep n patience start fuel now b with
  | case1 fuel now b refilled henough =>
      intro more _
      unfold acquireFrom
      exact if_pos henough
  | case2 fuel now b refilled hshort hpatience =>
      subst hpatience
      intro more _
      unfold acquireFrom
      exact if_neg hshort
  | case3 fuel now b refilled hshort timeout hpatience hwait =>
      subst hpatience
      intro more _
      unfold acquireFrom
      simp only
      rw [if_neg hshort, hwait]
  | case4 fuel now b refilled hshort timeout hpatience wait hwait hlong =>
      subst hpatience
      intro more _
      unfold acquireFrom
      simp only
      rw [if_neg hshort, hwait]
      exact if_pos hlong
  | case5 => exact absurd rfl h
  | case6 now b refilled hshort timeout hpatience wait hwait hsoon fuel ih =>
      subst hpatience
      intro more hle
      obtain ⟨more, rfl⟩ : ∃ fewer, more = fewer + 1 := ⟨more - 1, by omega⟩
      rw [acquireFrom]
      simp only
      rw [if_neg hshort, hwait]
      simp only
      rw [if_neg hsoon, ih h more (Nat.le_of_succ_le_succ hle)]

/-- A turn that is ready to wait is not refused. -/
theorem acquireFrom_ne_refused (sleep : α → α → α) (n timeout start : α) (fuel : Nat) (now : α)
    (b : Bucket α) :
    (acquireFrom sleep n (.upTo timeout) start fuel now b).answer ≠ .refused := by
  fun_induction acquireFrom sleep n (.upTo timeout) start fuel now b with
  | case1 | case3 | case4 | case5 => simp
  | case2 fuel now b refilled hshort hpatience => cases hpatience
  | case6 now b refilled hshort timeout hpatience wait hwait hsoon fuel ih => exact hpatience ▸ ih

theorem wait?_eq_none_iff (b : Bucket α) (n : α) :
    b.wait? n = none ↔ Scale.isZero b.pace.rate = true := by
  unfold wait?
  simp

/-- **When a turn breaks down**: tokens are missing, and none are gained. -/
theorem acquireFrom_eq_never_iff (sleep : α → α → α) (n timeout start : α) (fuel : Nat) (now : α)
    (b : Bucket α) :
    (acquireFrom sleep n (.upTo timeout) start fuel now b).answer = .never ↔
      Scale.isZero b.pace.rate = true ∧ ¬ Scale.atLeast (b.refill now).tokens n = true := by
  have hgains {b : Bucket α} {now wait : α} (hwait : (b.refill now).wait? n = some wait) :
      ¬ Scale.isZero b.pace.rate = true := by
    intro hzero
    rw [(wait?_eq_none_iff (b.refill now) n).mpr hzero] at hwait
    cases hwait
  fun_induction acquireFrom sleep n (.upTo timeout) start fuel now b with
  | case1 fuel now b refilled henough => exact iff_of_false (by simp) fun h => h.2 henough
  | case2 fuel now b refilled hshort hpatience => cases hpatience
  | case3 fuel now b refilled hshort timeout hpatience hwait =>
      exact iff_of_true rfl ⟨(wait?_eq_none_iff refilled n).mp hwait, hshort⟩
  | case4 fuel now b refilled hshort timeout hpatience wait hwait
  | case5 now b refilled hshort timeout hpatience wait hwait =>
      exact iff_of_false (by simp) fun h => hgains hwait h.1
  | case6 now b refilled hshort timeout hpatience wait hwait hsoon fuel ih =>
      -- What is gained stays the same, so neither this look nor a later one breaks down.
      refine iff_of_false (fun hnever => ?_) fun h => hgains hwait h.1
      cases hpatience
      exact hgains hwait (ih.mp hnever).1

/-! ## Looks that follow each other -/

/-- The time and the bucket of the look after one that found too few tokens. -/
def later (sleep : α → α → α) (n : α) (s : α × Bucket α) : α × Bucket α :=
  (sleep s.1 ((n - (s.2.refill s.1).tokens) / s.2.pace.rate), s.2.refill s.1)

theorem later_iterate_pace (sleep : α → α → α) (n : α) (s : α × Bucket α) (k : Nat) :
    ((later sleep n)^[k] s).2.pace = s.2.pace := by
  induction k with
  | zero => rfl
  | succ k ih =>
      rw [Function.iterate_succ_apply']
      exact ih

/-- A turn that waits goes on with the next look. -/
theorem acquireFrom_later_waiting {s : α × Bucket α}
    (h : (acquireFrom sleep n patience start (fuel + 1) s.1 s.2).answer = .waiting) :
    (acquireFrom sleep n patience start fuel (later sleep n s).1 (later sleep n s).2).answer =
      .waiting := by
  unfold acquireFrom at h
  simp only at h
  split at h
  · cases h
  · split at h
    · cases h
    · split at h
      · cases h
      · next wait hwait =>
        -- The wait is the quotient that the next look is computed from.
        obtain ⟨_, hwait⟩ := Option.ite_none_left_eq_some.mp hwait
        cases hwait
        split at h
        · cases h
        · exact h

theorem not_atLeast_of_waiting
    (h : (acquireFrom sleep n patience start fuel now b).answer = .waiting) :
    ¬ Scale.atLeast (b.refill now).tokens n = true := by
  intro henough
  unfold acquireFrom at h
  simp only at h
  rw [if_pos henough] at h
  cases h

/-- A turn does not wait for what is not gained. -/
theorem acquireFrom_ne_waiting (hrate : Scale.isZero b.pace.rate = true) :
    (acquireFrom sleep n (.upTo timeout) start fuel now b).answer ≠ .waiting := by
  intro hwaiting
  have hnever := (acquireFrom_eq_never_iff sleep n timeout start fuel now b).mpr
    ⟨hrate, not_atLeast_of_waiting hwaiting⟩
  rw [hwaiting] at hnever
  cases hnever

/-- A turn that never ends finds too few tokens in every look. -/
theorem not_atLeast_iterate
    (h : ∀ fuel, (acquireFrom sleep n patience start fuel now b).answer = .waiting) (k : Nat) :
    ¬ Scale.atLeast (((later sleep n)^[k] (now, b)).2.refill
      ((later sleep n)^[k] (now, b)).1).tokens n = true := by
  have hwaiting : ∀ fuel, (acquireFrom sleep n patience start fuel
      ((later sleep n)^[k] (now, b)).1 ((later sleep n)^[k] (now, b)).2).answer = .waiting := by
    induction k with
    | zero => exact h
    | succ k ih =>
        intro fuel
        rw [Function.iterate_succ_apply']
        exact acquireFrom_later_waiting (ih (fuel + 1))
  exact not_atLeast_of_waiting (hwaiting 0)

end Turn

end Bucket

/-! ## The clock -/

/-- A clock that goes on: whatever is slept for, no time lasts but the end of all times. -/
def GoesOn (sleep : Float → Float → Float) : Prop :=
  ∀ times waits : Nat → Float, (∀ k, times (k + 1) = sleep (times k) (waits k)) →
    ∀ k, times k < infinity → ∃ j, times k < times j

/-- A sleep that ends on time, if there is a time so little later, and else with all times. -/
def onTime (now wait : Float) : Float := if now < now + wait then now + wait else infinity

theorem onTime_goesOn : GoesOn onTime := by
  intro times waits hsleep k hbefore
  refine ⟨k + 1, ?_⟩
  rw [hsleep]
  unfold onTime
  split
  · next hlater => exact hlater
  · exact hbefore

/-- A clock that goes on comes to the end of all times. -/
theorem GoesOn.exists_topmost {sleep : Float → Float → Float} (h : GoesOn sleep)
    (times : Nat → Float) {waits : Nat → Float}
    (hsleep : ∀ k, times (k + 1) = sleep (times k) (waits k)) :
    ∃ k, Topmost (times k).toModel.unpack := by
  obtain ⟨_, ⟨k, rfl⟩, hlast⟩ :=
    wellFounded_gt.has_min (Set.range times) ⟨times 0, Set.mem_range_self 0⟩
  refine ⟨k, topmost_of_not_lt fun hbefore => ?_⟩
  obtain ⟨j, hlater⟩ := h times waits hsleep k hbefore
  exact hlast (times j) (Set.mem_range_self j) hlater

/-! ## Tokens in doubles -/

namespace Bucket

variable {b : Bucket Float} {now : Float}

theorem least_of_topmost {x : Float} (h : Topmost x.toModel.unpack) (c : Float) :
    Scale.least c x = c :=
  if_neg (mt decide_eq_true_iff.mp (h.not_lt c))

/-- At the end of all times a bucket that gains anything is full. -/
theorem atLeast_refill_of_topmost (hcapacity : b.pace.capacity = 1)
    (hrate : IsAbove b.pace.rate.toModel.unpack) (hnow : Topmost now.toModel.unpack) :
    Scale.atLeast (b.refill now).tokens 1 = true := by
  have helapsed : Topmost (now - b.filledAt).toModel.unpack := by
    rw [unpack_sub]
    exact (hnow.sub_left _).unpack_pack
  have hgained : Topmost ((now - b.filledAt) * b.pace.rate).toModel.unpack := by
    rw [unpack_mul]
    exact (helapsed.mul_left hrate).unpack_pack
  have htokens : Topmost (b.tokens + (now - b.filledAt) * b.pace.rate).toModel.unpack := by
    rw [unpack_add]
    exact (hgained.add_right _).unpack_pack
  show Scale.atLeast (Scale.least (Scale.ofInt b.pace.capacity) _) 1 = true
  rw [least_of_topmost htokens, hcapacity]
  rfl

/-- A new bucket has its token, whether it gains others or not. -/
theorem atLeast_refill_full (service : String) (number : Nat) (now : Float) :
    Scale.atLeast ((full service number (⟨0, 1⟩ : Pace Float) now).refill now).tokens 1 = true := by
  show Scale.atLeast (Scale.least (Scale.ofInt 1) (Scale.ofInt 1 + (now - now) * 0)) 1 = true
  rcases sub_self_cases now with h | h
  · rw [h]
    decide +kernel
  · rw [h]
    decide +kernel

/-- **A turn ends**, if the bucket gains anything and the clock goes on. -/
theorem exists_ended {sleep : Float → Float → Float} (hsleep : GoesOn sleep)
    (hcapacity : b.pace.capacity = 1) (hrate : IsAbove b.pace.rate.toModel.unpack)
    (patience : Patience Float) (start now : Float) :
    ∃ fuel, (acquireFrom sleep 1 patience start fuel now b).answer ≠ .waiting := by
  by_contra! hwaiting
  -- A turn without end comes to the end of all times, and there the bucket is full.
  obtain ⟨k, hend⟩ := hsleep.exists_topmost (fun k => ((later sleep 1)^[k] (now, b)).1)
    fun k => by
      rw [Function.iterate_succ_apply']
      rfl
  have hpace := later_iterate_pace sleep 1 (now, b) k
  refine not_atLeast_iterate hwaiting k (atLeast_refill_of_topmost ?_ ?_ hend)
  · rw [hpace, hcapacity]
  · rwa [hpace]

end Bucket

/-! ## Visits -/

section Visits

variable {sleep : Float → Float → Float} {l : Limiter Float} {service : String}
  {x timeout now : Float}

def delayPace (x : Float) : Pace Float := ⟨1 / x, 1⟩

def Found.visit (found : Found Float) (turn : Turn Float) : Visit Float :=
  ⟨turn.answer, found.limiter.put turn.bucket, turn.now, turn.sleeps, found.isNew⟩

theorem passFor_eq_visit (hx : ¬ x ≤ 0) (sleep : Float → Float → Float) (fuel : Nat)
    (l : Limiter Float) (service : String) (timeout now : Float) :
    l.passFor sleep fuel service (some x) timeout now =
      (l.keepPace service (delayPace x) now).visit
        ((l.keepPace service (delayPace x) now).bucket.acquire sleep fuel 1 (.upTo timeout)
          now) := by
  have hpace : Pace.ofDelay? x = some (delayPace x) := if_neg (mt le_of_beq hx)
  rw [passFor_of_paced (mt atLeast_iff.mp hx) hpace, acquire_of_find? (keepPace_find? ..)]
  rfl

theorem keepPace_capacity (l : Limiter Float) (service : String) (x now : Float) :
    (l.keepPace service (delayPace x) now).bucket.pace.capacity = 1 := by
  rcases keepPace_cases l service (delayPace x) now with ⟨b, _, hsame, hkept⟩ | ⟨_, hmade⟩
  · rw [hkept]
    exact beq_iff_eq.mp (Bool.and_eq_true_iff.mp hsame).2
  · rw [hmade]
    rfl

/-- The bucket of a delay that is not infinite gains something. -/
theorem keepPace_isAbove (hx : ¬ x ≤ 0) (hfinite : x ≠ infinity) (l : Limiter Float)
    (service : String) (now : Float) :
    IsAbove (l.keepPace service (delayPace x) now).bucket.pace.rate.toModel.unpack := by
  have hrate := (isAbove_of_not_le_zero hx).one_div hfinite
  rcases keepPace_cases l service (delayPace x) now with ⟨b, _, hsame, hkept⟩ | ⟨_, hmade⟩
  · rw [hkept]
    exact hrate.of_beq (Bool.and_eq_true_iff.mp hsame).1
  · rw [hmade]
    exact hrate

/-- The bucket of an infinite delay gains nothing. -/
theorem keepPace_isZero (l : Limiter Float) (service : String) (now : Float) :
    Scale.isZero (l.keepPace service (delayPace infinity) now).bucket.pace.rate = true := by
  have hpace : delayPace infinity = ⟨0, 1⟩ := rfl
  rw [hpace]
  rcases keepPace_cases l service ⟨0, 1⟩ now with ⟨b, _, hsame, hkept⟩ | ⟨_, hmade⟩
  · rw [hkept]
    exact (Bool.and_eq_true_iff.mp hsame).1
  · have hzero : Scale.isZero (0 : Float) = true := by decide +kernel
    rw [hmade]
    exact hzero

/-- The bucket of a service has no token left, and gains none. -/
def IsDrained (l : Limiter Float) (service : String) (now : Float) : Prop :=
  ∃ b, l.find? service = some b ∧ b.pace.same ⟨0, 1⟩ = true ∧ ¬ 1 ≤ (b.refill now).tokens

/-- **When a visit breaks down**: the delay is infinite, and the token of the service is gone. -/
theorem passFor_eq_never_iff (hx : ¬ x ≤ 0) (fuel : Nat) :
    (l.passFor sleep fuel service (some x) timeout now).answer = .never ↔
      x = infinity ∧ l.IsDrained service now := by
  rw [passFor_eq_visit hx]
  refine (Bucket.acquireFrom_eq_never_iff sleep 1 timeout now fuel now _).trans ?_
  by_cases hfinite : x = infinity
  · subst hfinite
    have hpace : delayPace infinity = ⟨0, 1⟩ := rfl
    rw [hpace]
    -- A new bucket has its token, so the one that is out of tokens was kept.
    rcases keepPace_cases l service ⟨0, 1⟩ now with ⟨b, hfind, hsame, hkept⟩ | ⟨hnone, hmade⟩
    · rw [hkept, atLeast_iff]
      refine ⟨fun h => ⟨rfl, b, hfind, hsame, h.2⟩, ?_⟩
      rintro ⟨_, b', hfind', _, hshort⟩
      cases hfind.symm.trans hfind'
      exact ⟨(Bool.and_eq_true_iff.mp hsame).1, hshort⟩
    · rw [hmade]
      refine iff_of_false (fun h => h.2 (Bucket.atLeast_refill_full ..)) ?_
      rintro ⟨_, b, hfind, hsame, _⟩
      exact hnone b hfind hsame
  · exact iff_of_false (fun h => (keepPace_isAbove hx hfinite l service now).not_beq_zero h.1)
      fun h => hfinite h.1

/-- A service with a delay has its answer after some sleeps. -/
theorem exists_passFor_eq (hsleep : GoesOn sleep) (hx : ¬ x ≤ 0) (l : Limiter Float)
    (service : String) (timeout now : Float) :
    ∃ visit steps,
      (∀ fuel, steps ≤ fuel → l.passFor sleep fuel service (some x) timeout now = visit) ∧
        visit.answer ≠ .waiting ∧ visit.answer ≠ .refused := by
  obtain ⟨steps, hended⟩ : ∃ steps, ((l.keepPace service (delayPace x) now).bucket.acquire sleep
      steps 1 (.upTo timeout) now).answer ≠ .waiting := by
    by_cases hfinite : x = infinity
    · subst hfinite
      exact ⟨0, Bucket.acquireFrom_ne_waiting (keepPace_isZero l service now)⟩
    · exact Bucket.exists_ended hsleep (keepPace_capacity l service x now)
        (keepPace_isAbove hx hfinite l service now) (.upTo timeout) now now
  refine ⟨(l.keepPace service (delayPace x) now).visit _, steps, fun fuel hfuel => ?_, hended,
    Bucket.acquireFrom_ne_refused sleep 1 timeout now steps now _⟩
  rw [passFor_eq_visit hx]
  exact congrArg _ (Bucket.acquireFrom_eq_of_ended hended fuel hfuel)

/-- A service has its answer after some sleeps, with a delay or without one. -/
theorem exists_visit (hsleep : GoesOn sleep) (l : Limiter Float) (service : String)
    (delay : Option Float) (timeout now : Float) :
    ∃ visit steps,
      (∀ fuel, steps ≤ fuel → l.passFor sleep fuel service delay timeout now = visit) ∧
        visit.answer ≠ .waiting ∧ visit.answer ≠ .refused := by
  by_cases hfree : ∀ x, delay = some x → x ≤ 0
  · refine ⟨_, 0, fun fuel _ => passFor_of_free ?_ sleep fuel l service timeout now, by simp,
      by simp⟩
    exact fun x hx => atLeast_iff.mpr (hfree x hx)
  · push Not at hfree
    obtain ⟨x, rfl, hx⟩ := hfree
    exact exists_passFor_eq hsleep hx l service timeout now

/-- Who waits for a turn is not refused one. -/
theorem passFor_ne_refused (sleep : Float → Float → Float) (fuel : Nat) (l : Limiter Float)
    (service : String) (delay : Option Float) (timeout now : Float) :
    (l.passFor sleep fuel service delay timeout now).answer ≠ .refused := by
  by_cases hfree : ∀ x, delay = some x → x ≤ 0
  · have hvisit :=
      passFor_of_free (fun x hx => atLeast_iff.mpr (hfree x hx)) sleep fuel l service timeout now
    rw [hvisit]
    simp
  · push Not at hfree
    obtain ⟨x, rfl, hx⟩ := hfree
    rw [passFor_eq_visit hx]
    exact Bucket.acquireFrom_ne_refused sleep 1 timeout now fuel now _

end Visits

/-- **How a visit ends**, for every limiter, delay and timeout, if the clock goes on.

* With enough sleeps it has an answer, which does not depend on how many there may be: a token, or
  that the wait would be too long, or that there never will be a token.
* The last of them is for a service whose delay is infinite and whose token is gone, and for no
  other one. -/
theorem passFor_ends {sleep : Float → Float → Float} (hsleep : GoesOn sleep) (l : Limiter Float)
    (service : String) (delay : Option Float) (timeout now : Float) :
    (∃ visit steps,
      (∀ fuel, steps ≤ fuel → l.passFor sleep fuel service delay timeout now = visit) ∧
        (visit.answer = .granted ∨ (∃ wait, visit.answer = .exceeded wait) ∨
          visit.answer = .never)) ∧
      ∀ fuel, (l.passFor sleep fuel service delay timeout now).answer = .never ↔
        delay = some infinity ∧ l.IsDrained service now := by
  constructor
  · obtain ⟨visit, steps, hvisit, hwaiting, hrefused⟩ :=
      exists_visit hsleep l service delay timeout now
    -- a visit that waits is never refused, and in the end it does not wait any more
    refine ⟨visit, steps, hvisit, ?_⟩
    cases hanswer : visit.answer with
    | granted => exact .inl rfl
    | refused => exact absurd hanswer hrefused
    | exceeded wait => exact .inr (.inl ⟨wait, rfl⟩)
    | never => exact .inr (.inr rfl)
    | waiting => exact absurd hanswer hwaiting
  · intro fuel
    -- without a positive delay there is no bucket to break down
    by_cases hfree : ∀ x, delay = some x → x ≤ 0
    · have hvisit :=
        passFor_of_free (fun x hx => atLeast_iff.mpr (hfree x hx)) sleep fuel l service timeout now
      rw [hvisit]
      refine iff_of_false nofun fun h => ?_
      exact absurd (hfree infinity h.1) (by decide +kernel)
    · push Not at hfree
      obtain ⟨x, rfl, hx⟩ := hfree
      rw [passFor_eq_never_iff hx, Option.some_inj]

/-! ## Two visits -/

/-- A limiter of one service, which has no token left at 1000 seconds. -/
def emptyAt (rate : Float) : Limiter Float where
  buckets := [⟨"sample", 0, ⟨rate, 1⟩, 0, 1000⟩]
  made := 1

/-- With a delay of two seconds the visit comes to its end, and with an infinite one it breaks
down. -/
theorem passFor_ends_samples :
    GoesOn onTime ∧
      (∃ visit steps,
        (∀ fuel, steps ≤ fuel →
          (emptyAt (1 / 2)).passFor onTime fuel "sample" (some 2) 30 1001 = visit) ∧
        (visit.answer = .granted ∨ ∃ wait, visit.answer = .exceeded wait)) ∧
      ∀ fuel,
        ((emptyAt 0).passFor onTime fuel "sample" (some infinity) 30 1001).answer = .never := by
  obtain ⟨⟨visit, steps, hvisit, hanswer⟩, hnever⟩ :=
    passFor_ends onTime_goesOn (emptyAt (1 / 2)) "sample" (some 2) 30 1001
  obtain ⟨_, hendless⟩ := passFor_ends onTime_goesOn (emptyAt 0) "sample" (some infinity) 30 1001
  have hdrained : (emptyAt 0).IsDrained "sample" 1001 :=
    ⟨⟨"sample", 0, ⟨0, 1⟩, 0, 1000⟩, rfl, by decide +kernel, by decide +kernel⟩
  have hfinite : some (2 : Float) ≠ some infinity := by
    intro h
    have hbits := congrArg Float.toBits (Option.some.inj h)
    revert hbits
    decide +kernel
  refine ⟨onTime_goesOn, ⟨visit, steps, hvisit, ?_⟩,
    fun fuel => (hendless fuel).mpr ⟨rfl, hdrained⟩⟩
  rcases hanswer with hgranted | hexceeded | hbroken
  · exact .inl hgranted
  · exact .inr hexceeded
  · rw [← hvisit steps le_rfl] at hbroken
    exact absurd ((hnever steps).mp hbroken).1 hfinite

deriving instance DecidableEq for Answer

/-- The first visit of a service with an infinite delay. -/
def firstEndless : Visit Float :=
  Limiter.passFor onTime 0 {} "sample" (some infinity) 30 1000

/-- The first one has a token, and the second one breaks down. -/
theorem secondEndless_breaksDown :
    Scale.atLeast infinity Scale.zero = true ∧ firstEndless.answer = .granted ∧
      (firstEndless.limiter.passFor onTime 0 "sample" (some infinity) 30 1001).answer =
        .never := by
  decide +kernel

end ReleaseSearch.Limiter
