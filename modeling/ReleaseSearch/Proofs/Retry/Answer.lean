import ReleaseSearch.Proofs.Retry

/-!
# Whose outcome trying ends with

Trying ends with the outcome of its last call, with three exceptions.  If the number of retries is
negative, nothing is called, and trying ends all the same.  If the delay before the next attempt is
out of range, trying ends with that, although the last call has failed for a passing reason.  And it
breaks off if that delay is refused, as a negative one is where waiting blocks.

What one attempt does is said by `runFrom_of_not_passes`, `runFrom_zero`, `runFrom_of_overrun` and
`runFrom_succ`; `EndsAt` says what that comes to along the attempts.
-/

namespace ReleaseSearch.Retry

open Decimal

variable {ε β δ : Type}

/-- A course in which no delay is refused, and that ends with the outcome of its last call. -/
structure Course.IsAnswer (c : Course ε β δ) (refuses : δ → Bool) (call : Nat → Except ε β) :
    Prop where
  slept : ∀ delay ∈ c.sleeps, refuses delay = false
  ending : ∃ last, c.calls = last + 1 ∧ c.ending = .ofOutcome (call last)

theorem Ending.ofOutcome_ne_tooLong (outcome : Except ε β) :
    Ending.ofOutcome outcome ≠ .tooLong := by
  cases outcome with
  | ok b => exact fun h => by cases h
  | error e => exact fun h => by cases h

section Endings

variable [Delay δ] {p : Policy ε δ} {refuses : δ → Bool} {call : Nat → Except ε β}

/-- An attempt fails for a passing reason, and there is some delay after it, or none in range. -/
def Policy.WaitsFor (p : Policy ε δ) (call : Nat → Except ε β) (i : Nat) (delay? : Option δ) :
    Prop :=
  ∃ e, call i = .error e ∧ p.mayRetry e = true ∧ p.delay? i e = delay?

/-- Trying goes on up to an attempt that fails for a passing reason, too, but after which the delay
is out of range or refused; and that attempt is not the last one that is allowed. -/
def Policy.BreaksOff (p : Policy ε δ) (refuses : δ → Bool) (call : Nat → Except ε β) : Prop :=
  ∃ i : Nat, (i : Int) < p.retries ∧
    (∀ j < i, ∃ delay, p.WaitsFor call j (some delay) ∧ refuses delay = false) ∧
    ∃ delay?, p.WaitsFor call i delay? ∧ delay?.all refuses = true

theorem Policy.WaitsFor.passes {i : Nat} {delay? : Option δ} (h : p.WaitsFor call i delay?) :
    p.Passes (call i) := by
  obtain ⟨e, hcall, hretry, -⟩ := h
  exact ⟨e, hcall, hretry⟩

theorem Policy.WaitsFor.unique {i : Nat} {delay? other? : Option δ}
    (h : p.WaitsFor call i delay?) (h' : p.WaitsFor call i other?) : delay? = other? := by
  obtain ⟨e, hcall, -, hdelay⟩ := h
  obtain ⟨e', hcall', -, hother⟩ := h'
  obtain rfl := Except.error.inj (hcall.symm.trans hcall')
  exact hdelay.symm.trans hother

/-- A course from a first attempt on ends with the attempt `last`, where no attempt is allowed after
the attempt `limit`. -/
structure EndsAt (p : Policy ε δ) (call : Nat → Except ε β) (first limit last : Nat)
    (c : Course ε β δ) : Prop where
  first_le : first ≤ last
  le_limit : last ≤ limit
  calls : first + c.calls = last + 1
  goesOn : ∀ i, first ≤ i → i < last → ∃ delay ∈ c.sleeps, p.WaitsFor call i (some delay)
  sleeps : ∀ delay ∈ c.sleeps, ∃ i, first ≤ i ∧ i < last ∧ p.WaitsFor call i (some delay)
  ending : (c.ending = .ofOutcome (call last) ∧ (p.Passes (call last) → last = limit)) ∨
    (c.ending = .tooLong ∧ last < limit ∧ p.WaitsFor call last none)

/-- A single attempt is a course on its own. -/
theorem EndsAt.single {attempt limit : Nat} {c : Course ε β δ} (hle : attempt ≤ limit)
    (hcalls : c.calls = 1) (hsleeps : c.sleeps = [])
    (hending : (c.ending = .ofOutcome (call attempt) ∧
        (p.Passes (call attempt) → attempt = limit)) ∨
      (c.ending = .tooLong ∧ attempt < limit ∧ p.WaitsFor call attempt none)) :
    EndsAt p call attempt limit attempt c where
  first_le := Nat.le_refl attempt
  le_limit := hle
  calls := by rw [hcalls]
  goesOn i hfirst hlt := absurd hlt (Nat.not_lt.mpr hfirst)
  sleeps delay hmem := by
    rw [hsleeps] at hmem
    cases hmem
  ending := hending

/-- A round comes before the attempts that follow it. -/
theorem EndsAt.after {first limit last : Nat} {c : Course ε β δ} {e : ε} {delay : δ}
    (h : EndsAt p call (first + 1) limit last c) (hwaits : p.WaitsFor call first (some delay)) :
    EndsAt p call first limit last
      (c.after [.called, .reported (.again first e delay), .slept delay]) := by
  -- one more round in front: one more call and one more sleep
  have hcalls : (c.after [.called, .reported (.again first e delay), .slept delay]).calls =
      c.calls + 1 := by
    unfold Course.calls Course.after
    rw [List.countP_append, Nat.add_comm]
    rfl
  have hsleeps : (c.after [.called, .reported (.again first e delay), .slept delay]).sleeps =
      delay :: c.sleeps := rfl
  refine ⟨Nat.le_of_succ_le h.first_le, h.le_limit, ?calls, fun i hle hlt => ?goesOn,
    fun other hmem => ?sleeps, h.ending⟩
  case calls =>
    have hrest := h.calls
    omega
  case goesOn =>
    rw [hsleeps]
    rcases Nat.eq_or_lt_of_le hle with rfl | hlater
    · exact ⟨delay, List.mem_cons_self, hwaits⟩
    · obtain ⟨other, hmem, hother⟩ := h.goesOn i hlater hlt
      exact ⟨other, List.mem_cons_of_mem delay hmem, hother⟩
  case sleeps =>
    rw [hsleeps] at hmem
    rcases List.mem_cons.mp hmem with rfl | hlater
    · exact ⟨first, Nat.le_refl first, h.first_le, hwaits⟩
    · obtain ⟨i, hle, hlt, hother⟩ := h.sleeps other hlater
      exact ⟨i, Nat.le_of_succ_le hle, hlt, hother⟩

/-- An outcome that does not pass ends the attempts. -/
theorem endsAt_of_not_passes {left attempt : Nat} (h : ¬ p.Passes (call attempt)) :
    EndsAt p call attempt (attempt + left) attempt (runFrom p call left attempt) := by
  rw [runFrom_of_not_passes h]
  exact .single (Nat.le_add_right attempt left) rfl rfl
    (.inl ⟨rfl, fun hpasses => absurd hpasses h⟩)

/-- **Where trying ends**, by induction on the attempts that are left. -/
theorem exists_endsAt (p : Policy ε δ) (call : Nat → Except ε β) (left attempt : Nat) :
    ∃ last, EndsAt p call attempt (attempt + left) last (runFrom p call left attempt) := by
  -- On the attempts that are left: a failure that passes leaves one less, all else ends here.
  induction left generalizing attempt with
  | zero =>
      by_cases hpasses : p.Passes (call attempt)
      · obtain ⟨e, hcall, hretry⟩ := hpasses
        have hfailed : Ending.failed e = .ofOutcome (call attempt) := by
          rw [hcall]
          rfl
        rw [runFrom_zero hcall hretry]
        exact ⟨attempt, .single (Nat.le_refl attempt) rfl rfl (.inl ⟨hfailed, fun _ => rfl⟩)⟩
      · exact ⟨attempt, endsAt_of_not_passes hpasses⟩
  | succ left ih =>
      by_cases hpasses : p.Passes (call attempt)
      · obtain ⟨e, hcall, hretry⟩ := hpasses
        cases hdelay : p.delay? attempt e with
        | none =>
            rw [runFrom_of_overrun hcall hretry hdelay]
            exact ⟨attempt, .single (Nat.le_add_right attempt (left + 1)) rfl rfl
              (.inr ⟨rfl, by omega, e, hcall, hretry, hdelay⟩)⟩
        | some delay =>
            obtain ⟨last, hends⟩ := ih (attempt + 1)
            have hlimit : attempt + (left + 1) = attempt + 1 + left := by omega
            rw [runFrom_succ hcall hretry hdelay, hlimit]
            exact ⟨last, hends.after ⟨e, hcall, hretry, hdelay⟩⟩
      · exact ⟨attempt, endsAt_of_not_passes hpasses⟩

/-! ## Trying as a policy says -/

theorem run_of_neg (h : p.retries < 0) (call : Nat → Except ε β) : run p call = ⟨.untried, []⟩ :=
  if_pos h

theorem run_of_nonneg (h : 0 ≤ p.retries) (call : Nat → Except ε β) :
    ∃ last, EndsAt p call 0 p.retries.toNat last (run p call) := by
  obtain ⟨last, hends⟩ := exists_endsAt p call p.retries.toNat 0
  rw [Nat.zero_add] at hends
  unfold run
  rw [if_neg (Int.not_lt.mpr h)]
  exact ⟨last, hends⟩

theorem not_isAnswer_of_neg (h : p.retries < 0) : ¬ (run p call).IsAnswer refuses call := by
  rintro ⟨-, last, hcalls, -⟩
  rw [run_of_neg h] at hcalls
  cases hcalls

/-- Where trying breaks off, the delay is out of range, or it is refused. -/
theorem run_of_breaksOff (h : p.BreaksOff refuses call) :
    0 < (run p call).calls ∧ ((run p call).ending = .tooLong ∨
      ∃ delay ∈ (run p call).sleeps, refuses delay = true) := by
  obtain ⟨i, hi, hbefore, delay?, hwaits, hbreaks⟩ := h
  have hnonneg : 0 ≤ p.retries := by omega
  obtain ⟨last, hends⟩ := run_of_nonneg hnonneg call
  have hcalls := hends.calls
  refine ⟨by omega, ?_⟩
  rcases hends.ending with ⟨-, hlimit⟩ | ⟨hlong, -⟩
  · -- more attempts are allowed after that one, so it cannot be the last one, nor come after it
    have hlast : i < last := by
      rcases Nat.lt_trichotomy last i with hlt | rfl | hlt
      · obtain ⟨delay, hdelay, -⟩ := hbefore last hlt
        have := hlimit hdelay.passes
        omega
      · have := hlimit hwaits.passes
        omega
      · exact hlt
    obtain ⟨delay, hmem, hdelay⟩ := hends.goesOn i (Nat.zero_le i) hlast
    rw [hwaits.unique hdelay] at hbreaks
    exact .inr ⟨delay, hmem, hbreaks⟩
  · exact .inl hlong

theorem not_isAnswer_of_breaksOff (h : p.BreaksOff refuses call) :
    ¬ (run p call).IsAnswer refuses call := by
  rintro ⟨hslept, last, -, hending⟩
  rcases (run_of_breaksOff h).2 with hlong | ⟨delay, hmem, hrefused⟩
  · exact Ending.ofOutcome_ne_tooLong _ (hending.symm.trans hlong)
  · cases (hslept delay hmem).symm.trans hrefused

theorem run_isAnswer (h : 0 ≤ p.retries) (hsteady : ¬ p.BreaksOff refuses call) :
    (run p call).IsAnswer refuses call := by
  obtain ⟨last, hends⟩ := run_of_nonneg h call
  have hle := hends.le_limit
  have hcalls := hends.calls
  -- by induction, as breaking off is about the first delay that is refused
  have hbefore (i : Nat) (hi : i < last) :
      ∃ delay, p.WaitsFor call i (some delay) ∧ refuses delay = false := by
    induction i using Nat.strong_induction_on with
    | h i ih =>
        obtain ⟨delay, -, hwaits⟩ := hends.goesOn i (Nat.zero_le i) hi
        refine ⟨delay, hwaits, Bool.eq_false_iff.mpr fun hrefused => hsteady ?_⟩
        exact ⟨i, by omega, fun j hj => ih j hj (hj.trans hi), some delay, hwaits, hrefused⟩
  constructor
  · intro delay hmem
    obtain ⟨i, -, hi, hwaits⟩ := hends.sleeps delay hmem
    obtain ⟨other, hother, hslept⟩ := hbefore i hi
    exact Option.some.inj (hother.unique hwaits) ▸ hslept
  · rcases hends.ending with ⟨hanswer, -⟩ | ⟨-, hlt, hwaits⟩
    · exact ⟨last, by omega, hanswer⟩
    · exact absurd ⟨last, by omega, hbefore, none, hwaits, rfl⟩ hsteady

/-- **Whose outcome trying ends with.**

* A task comes to the same as what waits where it stands.
* Trying ends with the outcome of its last call if some attempt is allowed and no delay is out of
  range or refused, and only then.
* If no attempt is allowed, nothing is called, and that is all.
* If it breaks off, then after some calls: trying ends with a delay that is out of range, or there
  is a delay that is refused. -/
theorem run_isAnswer_iff (p : Policy ε δ) (refuses : δ → Bool) (call : Nat → Except ε β) :
    (Task.start p).follow call 0 = run p call ∧
    ((run p call).IsAnswer refuses call ↔ 0 ≤ p.retries ∧ ¬ p.BreaksOff refuses call) ∧
    (p.retries < 0 → run p call = ⟨.untried, []⟩) ∧
    (p.BreaksOff refuses call → 0 < (run p call).calls ∧ ((run p call).ending = .tooLong ∨
      ∃ delay ∈ (run p call).sleeps, refuses delay = true)) := by
  refine ⟨follow_start p call, ⟨fun hanswer => ?_, fun ⟨h, hsteady⟩ => run_isAnswer h hsteady⟩,
    fun h => run_of_neg h call, run_of_breaksOff⟩
  exact ⟨Int.not_lt.mp fun hneg => not_isAnswer_of_neg hneg hanswer,
    fun hbreaks => not_isAnswer_of_breaksOff hbreaks hanswer⟩

end Endings

/-! ## Delays of whole numbers -/

/-- Whole numbers are never out of range, so that trying breaks off only if one is refused. -/
theorem not_breaksOff_whole {retries base factor : Int} {limit : Number} {names : List String}
    {refuses : Number → Bool} {call : Nat → Except Trouble β}
    (h : ∀ i delay, (Policy.forTroubles retries (.whole base) (.whole factor) limit names).WaitsFor
      call i (some delay) → refuses delay = false) :
    ¬ (Policy.forTroubles retries (.whole base) (.whole factor) limit names).BreaksOff
      refuses call := by
  rintro ⟨i, -, -, delay?, hwaits, hbreaks⟩
  cases delay? with
  | none =>
      obtain ⟨e, -, -, hdelay⟩ := hwaits
      cases hdelay
  | some delay => cases (h i delay hwaits).symm.trans hbreaks

/-- A delay that is refused where waiting blocks. -/
def isNegative (delay : Number) : Bool := delay.less (.whole 0)

theorem run_isAnswer_iff_twoTroubles :
    let p : Policy Trouble Number := .forTroubles 3 (.whole 1) (.whole 2) (.whole 60) passing
    (run p twoTroubles).IsAnswer isNegative twoTroubles := by
  intro p
  obtain ⟨-, hanswer, -⟩ := run_isAnswer_iff p isNegative twoTroubles
  refine hanswer.mpr ⟨by decide, not_breaksOff_whole ?_⟩
  rintro i delay ⟨e, hcall, -, hdelay⟩
  match i with
  | 0 => cases hcall; cases hdelay; decide
  | 1 => cases hcall; cases hdelay; decide
  | _ + 2 => cases hcall

/-- An operation that always fails for a passing reason. -/
def lost : Nat → Except Trouble String :=
  fun _ => .error (.failure { kind := .connection, message := "lost" })

/-- A policy whose first delay is one second, and whose second one is beyond the largest double. -/
def steep : Policy Trouble Number :=
  .forTroubles 2 (.real 1) (.whole (10 ^ 309)) (.real 60) passing

theorem steep_breaksOff : steep.BreaksOff isNegative lost := by
  let e : Trouble := .failure { kind := .connection, message := "lost" }
  have hretry : steep.mayRetry e = true := by decide
  have hfirst : (steep.delay? 0 e).any (!isNegative ·) = true := by decide +kernel
  have hsecond : (steep.delay? 1 e).isNone = true := by decide +kernel
  refine ⟨1, by decide, fun j hj => ?_, none,
    ⟨e, rfl, hretry, Option.isNone_iff_eq_none.mp hsecond⟩,
    rfl⟩
  obtain rfl : j = 0 := by omega
  obtain ⟨delay, hdelay, hslept⟩ := (Option.any_eq_true _ _).mp hfirst
  exact ⟨delay, ⟨e, rfl, hretry, hdelay⟩, by simpa using hslept⟩

/-- A policy that asks for negative delays. -/
def backward : Policy Trouble Number := .forTroubles 1 (.whole (-1)) (.whole 2) (.real 60) passing

theorem backward_breaksOff : backward.BreaksOff isNegative lost :=
  ⟨0, by decide, fun j hj => absurd hj (Nat.not_lt_zero j), _, ⟨_, rfl, by decide, rfl⟩,
    by decide +kernel⟩

/-- A number of retries below zero is read as it is.  Then nothing is called, and trying ends
without an outcome; and so it does, after some calls, if a delay is out of range or refused. -/
theorem unanswered :
    (∃ settings p, Settings.ofVariables [("MAX_RETRIES", "-1")] = .ok settings ∧
      settings.isValid = false ∧ ({} : Request).policy? settings = some p ∧
      ∀ call : Nat → Except Trouble String,
        run p call = ⟨.untried, []⟩ ∧ ¬ (run p call).IsAnswer isNegative call) ∧
    0 ≤ steep.retries ∧ ¬ (run steep lost).IsAnswer isNegative lost ∧
    0 ≤ backward.retries ∧ ¬ (run backward lost).IsAnswer isNegative lost := by
  refine ⟨⟨_, _, rfl, by decide +kernel, rfl, fun call => ?_⟩, by decide,
    not_isAnswer_of_breaksOff steep_breaksOff, by decide,
    not_isAnswer_of_breaksOff backward_breaksOff⟩
  exact ⟨run_of_neg (by decide) call, not_isAnswer_of_neg (by decide)⟩

end ReleaseSearch.Retry
