import ReleaseSearch.Definition.Basic
import ReleaseSearch.Proofs.Run
import ReleaseSearch.Proofs.Schema.Check

/-!
# What the schema of definitions lets through

A definition is read field by field, and each of its fields is one that its own check let through:
`Reads es d` says so for all of them, and holds of every definition that is read from the record
`es`.
-/

namespace ReleaseSearch.Definition

open Schema

/-- The fields of a definition are those of a record. -/
structure Reads (es : Entries) (d : Definition) : Prop where
  id : need es "id" filledText = .fits d.id
  name : take es "name" "" text = .fits d.name
  baseUrls : take es "base_urls" [] (tuple text) = .fits d.baseUrls
  searchPaths : take es "search_paths" [] (tuple (record SearchPath.read)) = .fits d.searchPaths
  rowSelector : take es "row_selector" none (nullable (record RowSelector.read)) =
    .fits d.rowSelector
  fieldSelectors : (readFields es).outcome = .ok (.fits d.fieldSelectors)
  headers : take es "headers" [] (tuple (pair text text)) = .fits d.headers
  inputs : take es "inputs" [] freeDictionary = .fits d.inputs
  requestDelay : take es "request_delay" none (nullable floatFromZero) = .fits d.requestDelay
  followRedirect : take es "follow_redirect" false bool = .fits d.followRedirect

/-- Reading a record ends in a definition or in problems, unless its fields break down. -/
theorem outcome_ofEntries_of_readFields {es : Entries}
    {fields : Check (List (String × FieldSelector))} (h : (readFields es).outcome = .ok fields) :
    (∃ d, (ofEntries es).outcome = .ok d) ∨
      ∃ problems, (ofEntries es).outcome = .error (.unfit problems) := by
  unfold ofEntries readEntries
  rw [Run.outcome_bind, Run.outcome_bind_of_ok h, Run.outcome_pure, Run.ok_bind]
  split
  · exact .inl ⟨_, rfl⟩
  · exact .inr ⟨_, rfl⟩

/-- **A definition that is read from a record has its fields.** -/
theorem reads_of_ofEntries {es : Entries} {d : Definition} (h : (ofEntries es).outcome = .ok d) :
    Reads es d := by
  have hfits : (readEntries es).outcome = .ok (.fits d) := by
    unfold ofEntries at h
    cases hread : (readEntries es).outcome with
    | error t =>
        rw [Run.outcome_bind_of_error hread] at h
        cases h
    | ok check =>
        rw [Run.outcome_bind_of_ok hread] at h
        cases check with
        | fits d' =>
            cases h
            rfl
        | fails problems => cases h
  unfold readEntries at hfits
  cases hfields : (readFields es).outcome with
  | error t =>
      rw [Run.outcome_bind_of_error hfields] at hfits
      cases hfits
  | ok fields =>
      rw [Run.outcome_bind_of_ok hfields] at hfits
      simp only [Run.outcome_pure, Except.ok.injEq, Check.seq_eq_fits_iff,
        Check.map_eq_fits_iff] at hfits
      -- The checks are nested to the left: the id is the innermost of the ten fields.
      obtain ⟨_, _, ⟨_, _, ⟨_, _, ⟨_, _, ⟨_, _, ⟨_, _, ⟨_, _, ⟨_, _, ⟨_, _, ⟨_, hid, rfl⟩,
        hname, rfl⟩, hurls, rfl⟩, hpaths, rfl⟩, hrows, rfl⟩, hselectors, rfl⟩, hheaders, rfl⟩,
        hinputs, rfl⟩,
        hdelay, rfl⟩, hfollow, rfl⟩ := hfits
      exact ⟨hid, hname, hurls, hpaths, hrows, hselectors ▸ hfields, hheaders, hinputs, hdelay,
        hfollow⟩

/-- A definition that is read has an id. -/
theorem Reads.id_ne {es : Entries} {d : Definition} (h : Reads es d) : d.id ≠ "" := by
  obtain ⟨value, _, hvalue⟩ := exists_of_need_fits h.id
  exact ne_of_filledText_fits hvalue

/-- A delay that is read is not negative, and no delay that is not a number is read. -/
theorem Reads.requestDelay_nonneg {es : Entries} {d : Definition} (h : Reads es d) {x : Float}
    (hx : d.requestDelay = some x) : 0 ≤ x := by
  have hread := h.requestDelay
  rw [hx] at hread
  obtain ⟨delay, _, hfits⟩ := exists_of_take_fits (by simp) hread
  by_cases hnull : delay = .null
  · subst hnull
    cases hfits
  · obtain ⟨y, hy, hyx⟩ := (nullable_eq_fits_iff hnull).mp hfits
    cases hyx
    exact nonneg_of_floatFromZero_fits hy

end ReleaseSearch.Definition
