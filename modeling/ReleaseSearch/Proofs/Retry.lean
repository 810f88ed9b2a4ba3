import Mathlib.Algebra.Order.Field.Rat
import Mathlib.Tactic.Positivity
import ReleaseSearch.Retry

/-!
# What trying again comes to

As long as the attempts fail for passing reasons, each of them is a round: the operation is called,
the failure is reported, and time is slept.  The rounds end with the first attempt that does not
fail so, or with the last one that is allowed; after that one nothing is slept any more.

`runFrom_of_stop` and `runFrom_of_exhausted` say so for any arithmetic of delays, and `follow_start`
says that a task does the very same steps.  The main statement, `run_course`, is about delays that
are exact fractions.
-/

namespace ReleaseSearch.Retry

open Decimal

variable {ε β δ : Type}

def Ending.ofOutcome : Except ε β → Ending ε β
  | .ok b => .value b
  | .error e => .failed e

/-- The steps of an attempt that is followed by another one. -/
def round (wait : Nat → ε → δ) (errors : Nat → ε) (i : Nat) : List (Step ε δ) :=
  [.called, .reported (.again i (errors i) (wait i (errors i))), .slept (wait i (errors i))]

/-- The steps of some attempts in a row, counted from the first one. -/
def rounds (wait : Nat → ε → δ) (errors : Nat → ε) (first count : Nat) : List (Step ε δ) :=
  (List.range' first count).flatMap (round wait errors)

/-! ## Steps -/

section Steps

variable {wait : Nat → ε → δ} {errors : Nat → ε}

@[simp] theorem rounds_zero (first : Nat) : rounds wait errors first 0 = [] := rfl

theorem rounds_succ (first count : Nat) :
    rounds wait errors first (count + 1) =
      round wait errors first ++ rounds wait errors (first + 1) count := rfl

theorem calls_rounds (ending : Ending ε β) (first count : Nat) (last : List (Step ε δ)) :
    Course.calls ⟨ending, rounds wait errors first count ++ last⟩ =
      count + Course.calls ⟨ending, last⟩ := by
  induction count generalizing first with
  | zero => rw [rounds_zero, List.nil_append, Nat.zero_add]
  | succ count ih =>
      have hround : Course.calls ⟨ending, round wait errors first⟩ = 1 := rfl
      have hrest := ih (first + 1)
      unfold Course.calls at hround hrest ⊢
      rw [rounds_succ, List.append_assoc, List.countP_append, hround, hrest]
      omega

theorem sleeps_rounds (ending : Ending ε β) (first count : Nat) (last : List (Step ε δ)) :
    Course.sleeps ⟨ending, rounds wait errors first count ++ last⟩ =
      (List.range' first count).map (fun i => wait i (errors i)) ++
        Course.sleeps ⟨ending, last⟩ := by
  induction count generalizing first with
  | zero => rfl
  | succ count ih =>
      have hround : Course.sleeps ⟨ending, round wait errors first⟩ =
        [wait first (errors first)] := rfl
      have hrest := ih (first + 1)
      unfold Course.sleeps at hround hrest ⊢
      rw [rounds_succ, List.append_assoc, List.filterMap_append, hround, hrest]
      rfl

/-- Each round has one call and one sleep; what comes last has a call only. -/
theorem counts_of_rounds {c : Course ε β δ} {ending : Ending ε β} {count : Nat}
    {last : List (Step ε δ)} (hc : c = ⟨ending, rounds wait errors 0 count ++ last⟩)
    (hcalls : Course.calls ⟨ending, last⟩ = 1) (hsleeps : Course.sleeps ⟨ending, last⟩ = []) :
    c.calls = count + 1 ∧ c.sleeps = (List.range count).map fun i => wait i (errors i) := by
  subst hc
  constructor
  · rw [calls_rounds, hcalls]
  · rw [sleeps_rounds, hsleeps, List.append_nil, List.range_eq_range']

end Steps

/-! ## Attempts -/

section Attempts

variable [Delay δ] {p : Policy ε δ} {call : Nat → Except ε β} {wait : Nat → ε → δ}
  {errors : Nat → ε} {left attempt : Nat}

/-- An outcome after which trying goes on. -/
def Policy.Passes (p : Policy ε δ) (outcome : Except ε β) : Prop :=
  ∃ e, outcome = .error e ∧ p.mayRetry e = true

/-- Some first attempts fail with some errors, each for a passing reason. -/
def Policy.FailsWith (p : Policy ε δ) (call : Nat → Except ε β) (errors : Nat → ε)
    (count : Nat) : Prop :=
  ∀ i < count, call i = .error (errors i) ∧ p.mayRetry (errors i) = true

/-- An attempt that fails for a passing reason is a round, if there are attempts left. -/
theorem runFrom_succ {e : ε} {delay : δ} (hcall : call attempt = .error e)
    (hretry : p.mayRetry e = true) (hdelay : p.delay? attempt e = some delay) :
    runFrom p call (left + 1) attempt =
      (runFrom p call left (attempt + 1)).after
        [.called, .reported (.again attempt e delay), .slept delay] := by
  conv_lhs => unfold runFrom
  simp only [hcall, hretry, hdelay, Bool.not_true, Bool.false_eq_true, if_false]

/-- It ends trying if the next delay is out of range. -/
theorem runFrom_of_overrun {e : ε} (hcall : call attempt = .error e)
    (hretry : p.mayRetry e = true) (hdelay : p.delay? attempt e = none) :
    runFrom p call (left + 1) attempt = ⟨.tooLong, [.called]⟩ := by
  unfold runFrom
  simp only [hcall, hretry, hdelay, Bool.not_true, Bool.false_eq_true, if_false]

/-- The last attempt ends trying in any case. -/
theorem runFrom_zero {e : ε} (hcall : call attempt = .error e) (hretry : p.mayRetry e = true) :
    runFrom p call 0 attempt = ⟨.failed e, [.called, .reported (.exhausted e)]⟩ := by
  unfold runFrom
  simp only [hcall, hretry, Bool.not_true, Bool.false_eq_true, if_false]

/-- The first outcome that does not pass ends the attempts. -/
theorem runFrom_of_not_passes (h : ¬ p.Passes (call attempt)) :
    runFrom p call left attempt = ⟨.ofOutcome (call attempt), [.called]⟩ := by
  unfold runFrom
  cases hcall : call attempt with
  | ok b => rfl
  | error e =>
      have hretry : p.mayRetry e = false := by
        rw [← Bool.not_eq_true]
        exact fun hretry => h ⟨e, hcall, hretry⟩
      simp only [hretry, Bool.not_false, if_true]
      rfl

/-- **Trying until an outcome does not pass**, by induction on the rounds before it. -/
theorem runFrom_of_stop {k : Nat} (hwait : ∀ i e, p.delay? i e = some (wait i e))
    (herrors : p.FailsWith call errors (attempt + k)) (hstop : ¬ p.Passes (call (attempt + k)))
    (hle : k ≤ left) :
    runFrom p call left attempt =
      ⟨.ofOutcome (call (attempt + k)), rounds wait errors attempt k ++ [.called]⟩ := by
  induction k generalizing left attempt with
  | zero => exact runFrom_of_not_passes hstop
  | succ k ih =>
      obtain ⟨left, rfl⟩ : ∃ fewer, left = fewer + 1 := ⟨left - 1, by omega⟩
      -- the same attempt stops the rest, which starts one later
      have hnext : attempt + (k + 1) = attempt + 1 + k := by omega
      obtain ⟨hcall, hretry⟩ := herrors attempt (by omega)
      rw [hnext] at herrors hstop ⊢
      rw [runFrom_succ hcall hretry (hwait _ _), ih herrors hstop (Nat.le_of_succ_le_succ hle),
        rounds_succ]
      rfl

/-- **Trying until no attempt is left**, by induction on the attempts that are. -/
theorem runFrom_of_exhausted (hwait : ∀ i e, p.delay? i e = some (wait i e))
    (herrors : p.FailsWith call errors (attempt + left + 1)) :
    runFrom p call left attempt =
      ⟨.failed (errors (attempt + left)), rounds wait errors attempt left ++
        [.called, .reported (.exhausted (errors (attempt + left)))]⟩ := by
  induction left generalizing attempt with
  | zero =>
      obtain ⟨hcall, hretry⟩ := herrors attempt (Nat.lt_succ_self attempt)
      exact runFrom_zero hcall hretry
  | succ left ih =>
      have hnext : attempt + (left + 1) = attempt + 1 + left := by omega
      obtain ⟨hcall, hretry⟩ := herrors attempt (by omega)
      rw [hnext] at herrors ⊢
      rw [runFrom_succ hcall hretry (hwait _ _), ih herrors, rounds_succ]
      rfl

/-- Every sleep is the delay after a failed attempt, by induction on the attempts that are left. -/
theorem exists_of_mem_sleeps {delay : δ} (h : delay ∈ (runFrom p call left attempt).sleeps) :
    ∃ i e, call i = .error e ∧ p.delay? i e = some delay := by
  -- Only a failure that passes and has a delay leads to a sleep; each of the other ends has none.
  induction left generalizing attempt with
  | zero =>
      by_cases hpasses : p.Passes (call attempt)
      · obtain ⟨e, hcall, hretry⟩ := hpasses
        rw [runFrom_zero hcall hretry] at h
        cases h
      · rw [runFrom_of_not_passes hpasses] at h
        cases h
  | succ left ih =>
      by_cases hpasses : p.Passes (call attempt)
      · obtain ⟨e, hcall, hretry⟩ := hpasses
        cases hdelay : p.delay? attempt e with
        | none =>
            rw [runFrom_of_overrun hcall hretry hdelay] at h
            cases h
        | some d =>
            rw [runFrom_succ hcall hretry hdelay] at h
            rcases List.mem_cons.mp h with rfl | hlater
            · exact ⟨attempt, e, hcall, hdelay⟩
            · exact ih hlater
      · rw [runFrom_of_not_passes hpasses] at h
        cases h

/-! ## Tasks -/

/-- A task does what is done without one, by induction on the attempts that are left. -/
theorem follow_tryFrom (p : Policy ε δ) (call : Nat → Except ε β) (left attempt : Nat) :
    (Task.tryFrom p left attempt).follow call attempt = runFrom p call left attempt := by
  -- as deep as the attempts that are left, on both sides
  induction left generalizing attempt with
  | zero =>
      unfold Task.tryFrom runFrom Task.follow
      cases hcall : call attempt with
      | ok b => rfl
      | error e => cases hretry : p.mayRetry e <;> simp [hretry, Task.follow, Course.after]
  | succ left ih =>
      unfold Task.tryFrom runFrom Task.follow
      cases hcall : call attempt with
      | ok b => rfl
      | error e =>
          cases hretry : p.mayRetry e with
          | false => simp [hretry, Task.follow, Course.after]
          | true =>
              cases hdelay : p.delay? attempt e with
              | none => simp [hretry, hdelay, Task.follow, Course.after]
              | some delay => simp [hretry, hdelay, Task.follow, Course.after, ih]

theorem follow_start (p : Policy ε δ) (call : Nat → Except ε β) :
    (Task.start p).follow call 0 = run p call := by
  unfold Task.start run
  by_cases hretries : p.retries < 0
  · rw [if_pos hretries, if_pos hretries]
    rfl
  · rw [if_neg hretries, if_neg hretries]
    exact follow_tryFrom p call _ 0

end Attempts

/-! ## Exact delays -/

/-- The delay that a limit on the rate asks for, as an exact fraction. -/
def requested? : Trouble → Option Rat
  | .failure f => f.kind.retryAfter? >>= Number.fraction?
  | .unfit _ | .breakdown _ => none

/-- How long to wait after a failed attempt, attempts being counted from zero: as long as the
failure asks for, or longer and longer, but never longer than a limit. -/
def wait (base factor limit : Rat) (i : Nat) (t : Trouble) : Rat :=
  match requested? t with
  | some r => if r ≠ 0 then min r limit else min (base * factor ^ i) limit
  | none => min (base * factor ^ i) limit

theorem least_eq_min (a b : Rat) : Delay.least a b = min a b := by
  change (if b < a then b else a) = min a b
  rcases lt_or_ge b a with hlt | hle
  · rw [if_pos hlt, min_eq_right hlt.le]
  · rw [if_neg (not_lt.mpr hle), min_eq_left hle]

/-- A trouble suggests the delay that it asks for, unless that is zero. -/
theorem suggestion_eq (t : Trouble) :
    (suggestion t : Option Rat) = (requested? t).filter (· ≠ 0) := by
  cases t with
  | unfit problems => rfl
  | breakdown b => rfl
  | failure f =>
      change ((f.kind.retryAfter?).bind fun x => x.fraction?.bind fun r =>
        if r == 0 then none else some r) = ((f.kind.retryAfter?).bind Number.fraction?).filter _
      cases hafter : f.kind.retryAfter? with
      | none => rfl
      | some x =>
          cases hfraction : x.fraction? with
          | none => simp [hfraction]
          | some r => by_cases hzero : r = 0 <;> simp [hfraction, hzero, Option.filter]

theorem delay?_forTroubles (retries : Int) (base factor limit : Rat) (names : List String)
    (i : Nat) (t : Trouble) :
    (Policy.forTroubles retries base factor limit names).delay? i t =
      some (wait base factor limit i t) := by
  change some (Delay.least ((suggestion t).getD (base * factor ^ i)) limit) = _
  rw [suggestion_eq, least_eq_min, wait]
  cases requested? t with
  | none => rfl
  | some r => by_cases hzero : r = 0 <;> simp [hzero, Option.filter]

theorem wait_le (base factor limit : Rat) (i : Nat) (t : Trouble) :
    wait base factor limit i t ≤ limit := by
  unfold wait
  split
  · split <;> exact min_le_right _ _
  · exact min_le_right _ _

theorem wait_nonneg {base factor limit : Rat} {t : Trouble} (hbase : 0 ≤ base)
    (hfactor : 0 ≤ factor) (hlimit : 0 ≤ limit) (hrequested : ∀ r, requested? t = some r → 0 ≤ r)
    (i : Nat) : 0 ≤ wait base factor limit i t := by
  have hgrown : 0 ≤ base * factor ^ i := by positivity
  unfold wait
  split
  · next r hr =>
      have hr : 0 ≤ r := hrequested r hr
      split
      · exact le_min hr hlimit
      · exact le_min hgrown hlimit
  · exact le_min hgrown hlimit

theorem nonneg_of_requested? {t : Trouble} {r : Rat}
    (h : ∀ f x, t = .failure f → f.kind.retryAfter? = some x → ∃ r, x.fraction? = some r ∧ 0 ≤ r)
    (hr : requested? t = some r) : 0 ≤ r := by
  cases t with
  | unfit problems => cases hr
  | breakdown b => cases hr
  | failure f =>
      obtain ⟨x, hx, hfraction⟩ := Option.bind_eq_some_iff.mp hr
      obtain ⟨r', hr', hnonneg⟩ := h f x rfl hx
      cases hfraction.symm.trans hr'
      exact hnonneg

/-- **Trying again**, with exact delays.  The first outcome that does not pass is how trying ends,
if it comes before the attempts run out; otherwise the last failure is.  Each call but the last one
is followed by one sleep.

A course holds reports, not their texts: `Report.entry` writes these apart, and numbers of retries
with more than 4300 digits, which cannot be written, are left out there. -/
theorem run_course {β : Type} (n : Nat) {base factor limit : Rat} (names : List String)
    (call : Nat → Except Trouble β) (hbase : 0 ≤ base) (hfactor : 0 ≤ factor) (hlimit : 0 ≤ limit)
    (hrequested : ∀ i f x, call i = .error (.failure f) → f.kind.retryAfter? = some x →
      ∃ r, x.fraction? = some r ∧ 0 ≤ r) :
    let p : Policy Trouble Rat := .forTroubles n base factor limit names
    let c := run p call
    (∀ k errors, p.FailsWith call errors k → ¬ p.Passes (call k) → k ≤ n →
      c.ending = .ofOutcome (call k) ∧ c.calls = k + 1 ∧
        c.sleeps = (List.range k).map (fun i => wait base factor limit i (errors i)) ∧
        c.steps = rounds (wait base factor limit) errors 0 k ++ [.called]) ∧
    (∀ errors, p.FailsWith call errors (n + 1) →
      c.ending = .failed (errors n) ∧ c.calls = n + 1 ∧
        c.sleeps = (List.range n).map (fun i => wait base factor limit i (errors i)) ∧
        c.steps = rounds (wait base factor limit) errors 0 n ++
          [.called, .reported (.exhausted (errors n))]) ∧
    (Task.start p).follow call 0 = c ∧
    ∀ delay ∈ c.sleeps, 0 ≤ delay ∧ delay ≤ limit := by
  intro p c
  have hwait (i : Nat) (t : Trouble) : p.delay? i t = some (wait base factor limit i t) :=
    delay?_forTroubles n base factor limit names i t
  have hrun : c = runFrom p call n 0 := if_neg (by exact not_lt.mpr (Int.natCast_nonneg n))
  refine ⟨fun k errors herrors hstop hle => ?stop, fun errors herrors => ?exhausted,
    follow_start p call, fun delay hdelay => ?sleeps⟩
  case stop =>
    have hcourse : c = ⟨.ofOutcome (call k), rounds (wait base factor limit) errors 0 k ++
        [.called]⟩ := by
      -- the lemma counts from any attempt, the statement from the first one
      rw [← Nat.zero_add k] at herrors hstop ⊢
      rw [hrun, runFrom_of_stop hwait herrors hstop hle, Nat.zero_add]
    obtain ⟨hcalls, hsleeps⟩ := counts_of_rounds hcourse rfl rfl
    rw [hcalls, hsleeps, hcourse]
    exact ⟨rfl, rfl, rfl, rfl⟩
  case exhausted =>
    have hcourse : c = ⟨.failed (errors n), rounds (wait base factor limit) errors 0 n ++
        [.called, .reported (.exhausted (errors n))]⟩ := by
      rw [← Nat.zero_add n] at herrors
      rw [hrun, runFrom_of_exhausted hwait herrors, Nat.zero_add]
    obtain ⟨hcalls, hsleeps⟩ := counts_of_rounds hcourse rfl rfl
    rw [hcalls, hsleeps, hcourse]
    exact ⟨rfl, rfl, rfl, rfl⟩
  case sleeps =>
    rw [hrun] at hdelay
    obtain ⟨i, t, hcall, hdelay⟩ := exists_of_mem_sleeps hdelay
    cases (hwait i t).symm.trans hdelay
    have hnonneg (r : Rat) (hr : requested? t = some r) : 0 ≤ r :=
      nonneg_of_requested? (fun f x hf => hrequested i f x (hf ▸ hcall)) hr
    exact ⟨wait_nonneg hbase hfactor hlimit hnonneg i, wait_le base factor limit i t⟩

/-- A connection is lost, then the rate is limited for seven seconds, then there is an answer. -/
def twoTroubles : Nat → Except Trouble String
  | 0 => .error (.failure { kind := .connection, message := "lost" })
  | 1 => .error (.failure { kind := .rateLimited (some (.whole 7)), message := "busy" })
  | _ => .ok "answer"

theorem run_course_twoTroubles :
    let p : Policy Trouble Rat := .forTroubles (3 : Nat) 1 2 60 passing
    (run p twoTroubles).ending = .value "answer" ∧ (run p twoTroubles).calls = 3 ∧
      (run p twoTroubles).sleeps = [1, 7] ∧
      (Task.start p).follow twoTroubles 0 = run p twoTroubles := by
  intro p
  let errors (i : Nat) : Trouble :=
    if i = 0 then .failure { kind := .connection, message := "lost" }
    else .failure { kind := .rateLimited (some (.whole 7)), message := "busy" }
  -- the only delay that is asked for is that of the second trouble
  have hrequested (i : Nat) (f : Failure) (x : Number) (hcall : twoTroubles i = .error (.failure f))
      (hx : f.kind.retryAfter? = some x) : ∃ r, x.fraction? = some r ∧ 0 ≤ r := by
    match i with
    | 0 => cases hcall; cases hx
    | 1 => cases hcall; cases hx; exact ⟨7, rfl, by norm_num⟩
    | _ + 2 => cases hcall
  have herrors : p.FailsWith twoTroubles errors 2 := by
    intro i hi
    match i with
    | 0 => exact ⟨rfl, by decide⟩
    | 1 => exact ⟨rfl, by decide⟩
  have hstop : ¬ p.Passes (twoTroubles 2) := by
    rintro ⟨e, he, -⟩
    cases he
  obtain ⟨hfirst, -, hfollow, -⟩ := run_course 3 passing twoTroubles (by norm_num : (0 : Rat) ≤ 1)
    (by norm_num : (0 : Rat) ≤ 2) (by norm_num : (0 : Rat) ≤ 60) hrequested
  obtain ⟨hending, hcalls, hsleeps, -⟩ := hfirst 2 errors herrors hstop (by decide)
  refine ⟨hending, hcalls, hsleeps.trans ?_, hfollow⟩
  simp [List.range_succ, wait, requested?, errors, FailureKind.retryAfter?, Number.fraction?]
  decide

end ReleaseSearch.Retry
