import ReleaseSearch.Proofs.Run
import ReleaseSearch.Results.Read

/-!
# What surrounds the reading of rows

Before the rows are read the row selector is looked up, and while they are read a guard stands by
that turns every trouble which is no failure into one.
-/

namespace ReleaseSearch

/-- What a trouble is for a search: a failure stays as it is, and anything else becomes a plain
failure of the search. -/
def Trouble.Becomes : Trouble → Failure → Prop
  | .failure f, g => g = f
  | .unfit _, g => ∃ message, g = .search message
  | .breakdown _, g => ∃ message, g = .search message

namespace Results

variable {α : Type}

theorem rowSelector_eq_ok {d : Definition} {rowsAt : RowSelector}
    (hrows : d.rowSelector = some rowsAt) : rowSelector d = .ok rowsAt := by
  unfold rowSelector
  rw [hrows]

theorem rowSelector_eq_error {d : Definition} (hrows : d.rowSelector = none) :
    rowSelector d =
      .error (.configuration ("No row selector configured for indexer '" ++ d.id ++ "'")) := by
  unfold rowSelector
  rw [hrows]

theorem rowSelector_eq_some {d : Definition} {rowsAt : RowSelector}
    (h : rowSelector d = .ok rowsAt) : d.rowSelector = some rowsAt := by
  unfold rowSelector at h
  split at h
  · next heq =>
      cases h
      exact heq
  · cases h

@[simp] theorem outcome_noteKept (form indexer : String) (kept all : Nat) :
    (noteKept form indexer kept all).outcome = .ok () := rfl

/-- What ends well is left alone by the guard. -/
theorem outcome_guarded_of_ok {form indexer : String} {r : Run α} {a : α}
    (h : r.outcome = .ok a) : (guarded form indexer r).outcome = .ok a := by
  unfold guarded
  rw [Run.outcome_bind_of_ok (Run.outcome_attempt r), h]
  rfl

/-- What ends in a trouble ends in the failure that it becomes. -/
theorem outcome_guarded_of_error (form indexer : String) {r : Run α} {t : Trouble}
    (h : r.outcome = .error t) :
    ∃ f, (guarded form indexer r).outcome = .error (.failure f) ∧ t.Becomes f := by
  unfold guarded
  rw [Run.outcome_bind_of_ok (Run.outcome_attempt r), h]
  cases t with
  | failure f => exact ⟨f, rfl, rfl⟩
  | unfit problems => exact ⟨_, rfl, _, rfl⟩
  | breakdown b => exact ⟨_, rfl, _, rfl⟩

/-- A failure behind the guard was there before, or the guard says what could not be read. -/
theorem failure_of_guarded {form indexer : String} {r : Run α} {f : Failure}
    (h : (guarded form indexer r).outcome = .error (.failure f)) :
    r.outcome = .error (.failure f) ∨
      ∃ reason, f = .search ("Failed to parse " ++ form ++ " response: " ++ reason) := by
  unfold guarded at h
  rw [Run.outcome_bind_of_ok (Run.outcome_attempt r)] at h
  cases hr : r.outcome with
  | ok a =>
      rw [hr] at h
      cases h
  | error t =>
      rw [hr] at h
      -- a failure of the search goes through, and all else is made one
      cases t with
      | failure g =>
          cases h
          exact .inl rfl
      | unfit problems =>
          cases h
          exact .inr ⟨_, rfl⟩
      | breakdown b =>
          cases h
          exact .inr ⟨_, rfl⟩

/-! ## Without the guard -/

variable [Pattern.Library]

/-- The releases of an answer, with nobody standing by. -/
def unguarded (d : Definition) (body : Body) (indexer : String) (extract : Quality.Extractor) :
    Run (List Release) := do
  let rowsAt ← Run.ofExcept ((rowSelector d).mapError .failure)
  match body.form with
  | .data => do
    let data ← Run.ofExcept (readData body)
    let found ← Run.ofExcept ((Path.navigate data rowsAt.selector).mapError .failure)
    dataReleases d indexer found extract
  | .page => pageReleases d rowsAt indexer body extract

/-- Reading an answer ends as it would without the guard, or else in the failure that the trouble
becomes. -/
theorem outcome_ofBody (d : Definition) (body : Body) (name : Option String)
    (extract : Quality.Extractor) :
    (ofBody d body name extract).outcome = (unguarded d body (tagName d name) extract).outcome ∨
      ∃ t f, (unguarded d body (tagName d name) extract).outcome = .error t ∧
        (ofBody d body name extract).outcome = .error (.failure f) ∧ t.Becomes f := by
  -- The guard comes last in both forms; what stands before it is the same on both sides.
  have hguard : ∀ (form : String) (r : Run (List Release)),
      (guarded form (tagName d name) r).outcome = r.outcome ∨
        ∃ t f, r.outcome = .error t ∧
          (guarded form (tagName d name) r).outcome = .error (.failure f) ∧ t.Becomes f := by
    intro form r
    cases h : r.outcome with
    | ok releases => exact .inl (outcome_guarded_of_ok h)
    | error t =>
        obtain ⟨f, hf, hbecomes⟩ := outcome_guarded_of_error form (tagName d name) h
        exact .inr ⟨t, f, rfl, hf, hbecomes⟩
  unfold ofBody unguarded ofData ofPage
  cases rowSelector d with
  | error f => cases body.form <;> exact .inl rfl
  | ok rowsAt =>
      simp only [Run.mapError_ok, Run.ofExcept_ok_bind]
      cases body.form with
      | page => exact hguard "HTML" _
      | data =>
          cases readData body with
          | error t => exact .inl rfl
          | ok data =>
              simp only [Run.ofExcept_ok_bind]
              cases Path.navigate data rowsAt.selector with
              | error f => exact .inl rfl
              | ok found => exact hguard "JSON" _

end Results

end ReleaseSearch
