import ReleaseSearch.Log.Basic

/-!
# Outcomes of runs

A `Run` ends in a value or in a trouble and leaves entries behind.  `Run.outcome` forgets the
entries.  The lemmas here push it through the steps that runs are built from, so that what a run
ends in can be computed in `Except` alone:

    outcome_bind : (r >>= f).outcome = r.outcome >>= fun a => (f a).outcome

The one step that looks at a trouble is `attempt`, which always goes on.
-/

namespace ReleaseSearch

variable {α β γ : Type}

namespace Logged

@[simp] theorem value_pure (a : α) : (pure a : Logged α).value = a := rfl

@[simp] theorem value_bind (x : Logged α) (f : α → Logged β) :
    (x >>= f).value = (f x.value).value := rfl

end Logged

namespace Run

@[simp] theorem ok_bind {ε : Type} (a : α) (f : α → Except ε β) : (Except.ok a >>= f) = f a := rfl

@[simp] theorem error_bind {ε : Type} (e : ε) (f : α → Except ε β) :
    (Except.error e >>= f) = .error e := rfl

@[simp] theorem mapError_ok {ε : Type} (f : ε → Trouble) (a : α) :
    Except.mapError f (.ok a) = .ok a := rfl

@[simp] theorem mapError_error {ε : Type} (f : ε → Trouble) (e : ε) :
    (Except.error e : Except ε α).mapError f = .error (f e) := rfl

@[simp] theorem outcome_pure (a : α) : (pure a : Run α).outcome = .ok a := rfl

@[simp] theorem outcome_fail (f : Failure) : (fail f : Run α).outcome = .error (.failure f) := rfl

@[simp] theorem outcome_ofExcept (e : Except Trouble α) : (ofExcept e).outcome = e := rfl

@[simp] theorem outcome_lift (x : Logged α) :
    outcome (ExceptT.lift x) = .ok x.value := rfl

@[simp] theorem outcome_note (level : Level) (source message : String) :
    (note level source message).outcome = .ok () := rfl

@[simp] theorem outcome_attempt (r : Run α) : (attempt r).outcome = .ok r.outcome := rfl

@[simp] theorem outcome_bind (r : Run α) (f : α → Run β) :
    (r >>= f).outcome = r.outcome >>= fun a => (f a).outcome := by
  -- The continuation is chosen by how the first run ends; both choices are definitional.
  obtain ⟨value, entries⟩ := r
  cases value with
  | ok a => rfl
  | error t => rfl

@[simp] theorem outcome_map (f : α → β) (r : Run α) : (f <$> r).outcome = f <$> r.outcome := by
  obtain ⟨value, entries⟩ := r
  cases value with
  | ok a => rfl
  | error t => rfl

@[simp] theorem ofExcept_ok_bind (a : α) (f : α → Run β) : (ofExcept (.ok a) >>= f) = f a := rfl

/-- A run goes on where the one before it ends in a value. -/
theorem outcome_bind_of_ok {r : Run α} {a : α} (h : r.outcome = .ok a) (f : α → Run β) :
    (r >>= f).outcome = (f a).outcome := by
  rw [outcome_bind, h]
  rfl

/-- A run ends where the one before it ends in a trouble. -/
theorem outcome_bind_of_error {r : Run α} {t : Trouble} (h : r.outcome = .error t)
    (f : α → Run β) : (r >>= f).outcome = .error t := by
  rw [outcome_bind, h]
  rfl

/-- A trouble comes from the first run, or from what follows it. -/
theorem outcome_bind_eq_error_iff {r : Run α} {f : α → Run β} {t : Trouble} :
    (r >>= f).outcome = .error t ↔
      r.outcome = .error t ∨ ∃ a, r.outcome = .ok a ∧ (f a).outcome = .error t := by
  cases h : r.outcome with
  | ok a =>
      rw [outcome_bind_of_ok h]
      simp
  | error t' =>
      rw [outcome_bind_of_error h]
      simp

/-- Where only `next` can go wrong in what follows a run, a trouble comes from the run or from
`next`. -/
theorem outcome_then_error_iff {r : Run α} {f : α → Run β} {next : Run γ} {t : Trouble}
    (hf : ∀ a, (f a).outcome = .error t ↔ next.outcome = .error t) :
    (r >>= f).outcome = .error t ↔
      r.outcome = .error t ∨ (∃ a, r.outcome = .ok a) ∧ next.outcome = .error t := by
  rw [outcome_bind_eq_error_iff]
  refine or_congr_right ?_
  constructor
  · rintro ⟨a, ha, h⟩
    exact ⟨⟨a, ha⟩, (hf a).mp h⟩
  · rintro ⟨⟨a, ha⟩, h⟩
    exact ⟨a, ha, (hf a).mpr h⟩

/-! ## Two runs -/

/-- Two runs end alike: in the same trouble, or in values that are alike. -/
inductive EndsAlike (R : α → β → Prop) (r : Run α) (s : Run β) : Prop
  | ok {a : α} {b : β} (hr : r.outcome = .ok a) (hs : s.outcome = .ok b) (h : R a b)
  | error {t : Trouble} (hr : r.outcome = .error t) (hs : s.outcome = .error t)

namespace EndsAlike

variable {δ : Type} {R : α → β → Prop} {S : γ → δ → Prop}

/-- Runs that end alike and go on alike end alike. -/
theorem bind {r : Run α} {s : Run β} {f : α → Run γ} {g : β → Run δ} (h : EndsAlike R r s)
    (hnext : ∀ a b, R a b → EndsAlike S (f a) (g b)) : EndsAlike S (r >>= f) (s >>= g) := by
  cases h with
  | error hr hs => exact .error (outcome_bind_of_error hr f) (outcome_bind_of_error hs g)
  | ok hr hs h =>
      cases hnext _ _ h with
      | ok hf hg hS =>
          exact .ok ((outcome_bind_of_ok hr f).trans hf) ((outcome_bind_of_ok hs g).trans hg) hS
      | error hf hg =>
          exact .error ((outcome_bind_of_ok hr f).trans hf) ((outcome_bind_of_ok hs g).trans hg)

theorem refl {R : α → α → Prop} (hR : ∀ a, R a a) (r : Run α) : EndsAlike R r r := by
  cases h : r.outcome with
  | ok a => exact .ok h h (hR a)
  | error t => exact .error h h

/-- Runs that start in the same way need to go on alike from where that leads only. -/
theorem bind_self {r : Run α} {f : α → Run γ} {g : α → Run δ}
    (hnext : ∀ a, r.outcome = .ok a → EndsAlike S (f a) (g a)) :
    EndsAlike S (r >>= f) (r >>= g) := by
  cases h : r.outcome with
  | error t => exact .error (outcome_bind_of_error h f) (outcome_bind_of_error h g)
  | ok a =>
      refine bind (.ok (R := fun b c => b = a ∧ c = a) h h ⟨rfl, rfl⟩) ?_
      rintro _ _ ⟨rfl, rfl⟩
      exact hnext _ h

theorem of_outcome_eq {r s : Run α} (h : r.outcome = s.outcome) : EndsAlike Eq r s := by
  cases hr : r.outcome with
  | ok a => exact .ok hr (h.symm.trans hr) rfl
  | error t => exact .error hr (h.symm.trans hr)

theorem outcome_eq {r s : Run α} (h : EndsAlike Eq r s) : r.outcome = s.outcome := by
  cases h with
  | ok hr hs h => rw [hr, hs, h]
  | error hr hs => rw [hr, hs]

end EndsAlike

end Run

end ReleaseSearch
