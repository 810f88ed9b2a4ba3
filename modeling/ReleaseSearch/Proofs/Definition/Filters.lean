import ReleaseSearch.Proofs.Definition.Load
import ReleaseSearch.Proofs.Filter.Problems

/-!
# The filters of a definition

The filters of a field are looked at twice: `findings` asks for their problems, and they are built
when the record of the field is read.  A filter that fails late passes the first time and not the
second, so a definition with which nothing is wrong may still not be loaded.
-/

namespace ReleaseSearch.Definition

open Schema

variable {settings : Settings} {raw field record : Data}

/-- A field that is kept, with a filter that fails late. -/
def HasLateFilter (field : Data) : Prop :=
  ∃ es specs spec, field = .map es ∧ ((Data.map es).valueAt "selector").isPresent = true ∧
    orElse ((Data.map es).valueAt "filters") (.list []) = .list specs ∧ spec ∈ specs ∧
    Filter.FailsLate spec

/-- The filters that are written in a record are built. -/
def BuildsFilters (record : Data) : Prop :=
  ∀ es, record = .map es →
    ∃ filters, (FieldSelector.readFilters es).outcome = .ok (.fits filters)

/-! ## Records of fields -/

/-- The filters of a list fit if each of them is built. -/
theorem readFilters_fits_iff {es : Entries} {specs : List Data}
    (h : Data.find? "filters" es = some (.list specs)) :
    (∃ filters, (FieldSelector.readFilters es).outcome = .ok (.fits filters)) ↔
      ∀ spec ∈ specs, ∃ filter, (Filter.build spec).run.value = .ok filter := by
  rw [← Filter.exists_buildAll_iff]
  rcases outcome_readFilters_cases h with ⟨filters, hbuild, hread⟩ | ⟨problem, hbuild, hread⟩
  · exact iff_of_true ⟨filters, hread⟩ ⟨filters, hbuild⟩
  · rw [hbuild, hread]
    refine iff_of_false ?_ ?_
    · rintro ⟨_, ⟨⟩⟩
    · rintro ⟨_, ⟨⟩⟩

/-- The filters of a field that fits are built unless one of them fails late. -/
theorem FieldFits.buildsFilters_iff (hfits : FieldFits field)
    (h : fieldRecord? field = some record) : BuildsFilters record ↔ ¬ HasLateFilter field := by
  cases hfits with
  | text selector =>
      cases h
      refine iff_of_true ?_ ?_
      -- a selector alone has no filters
      · rintro es ⟨⟩
        exact ⟨[], rfl⟩
      · rintro ⟨_, _, _, ⟨⟩, _⟩
  | @map es specs hfilters hspecs =>
      obtain ⟨hpresent, h⟩ := Option.ite_none_right_eq_some.mp h
      cases h
      have hfind : Data.find? "filters" [(.text "selector", (Data.map es).valueAt "selector"),
          (.text "attribute", (Data.map es).valueAt "attribute"), (.text "filters", .list specs)] =
          some (.list specs) := rfl
      -- The record of a map holds its filters as they are written.
      have hbuilds : BuildsFilters (fieldRecord es) ↔
          ∀ spec ∈ specs, ∃ filter, (Filter.build spec).run.value = .ok filter := by
        rw [← readFilters_fits_iff hfind]
        unfold fieldRecord
        rw [hfilters]
        constructor
        · intro h
          exact h _ rfl
        · rintro h es' ⟨⟩
          exact h
      rw [hbuilds]
      constructor
      · rintro h ⟨es', specs', spec, ⟨⟩, _, hfilters', hmem, hlate⟩
        -- a map has one list of filters
        cases hfilters.symm.trans hfilters'
        exact (Filter.exists_build_iff.mp (h spec hmem)).2 hlate
      · intro h spec hmem
        refine Filter.exists_build_iff.mpr ⟨hspecs spec hmem, fun hlate => h ?_⟩
        exact ⟨es, specs, spec, rfl, hpresent, hfilters, hmem, hlate⟩

/-- What is read as a selector holds filters that are built. -/
theorem buildsFilters_of_read {selector : FieldSelector}
    (h : (FieldSelector.read record).outcome = .ok (.fits selector)) : BuildsFilters record := by
  rintro es rfl
  unfold FieldSelector.read at h
  rw [Run.outcome_bind] at h
  obtain ⟨check, hcheck, h⟩ := bind_eq_ok_iff.mp h
  obtain ⟨_, filters, _, hfilters, _⟩ := Check.seq_eq_fits_iff.mp (Except.ok.inj h)
  exact ⟨filters, hcheck.trans (congrArg _ hfilters)⟩

/-! ## The whole -/

/-- A definition that is loaded has no filter that fails late. -/
theorem not_hasLateFilter_of_load {d : Definition} (h : (load settings raw).outcome = .ok d)
    {fields : Entries} (hfields : (raw.valueAt "search").valueAt "fields" = .map fields)
    {entry : Data × Data} (hmem : entry ∈ fields) : ¬ HasLateFilter entry.2 := by
  obtain ⟨s, id, paths, headers, inputs, delay, _, _, _, hreads⟩ := exists_record_of_load h
  rw [s.search_eq, s.fields_eq] at hfields
  cases hfields
  have hread := hreads.fieldSelectors
  rw [s.outcome_readFields] at hread
  obtain ⟨check, hcheck, hfits⟩ := map_eq_ok_iff.mp hread
  rw [Check.under_eq_fits_iff.mp hfits] at hcheck
  cases hrecord : fieldRecord? entry.2 with
  | none =>
      -- a field without a record has no selector, and so no filters
      rintro ⟨es, _, _, hmap, hpresent, _⟩
      rw [hmap, fieldRecord?, if_pos hpresent] at hrecord
      cases hrecord
  | some record =>
      have hmem' : (entry.1, record) ∈ fieldRecords s.fields :=
        List.mem_filterMap.mpr ⟨entry, hmem, by rw [hrecord]; rfl⟩
      obtain ⟨selector, _, _, hselector⟩ :=
        exists_mem_of_forall₂ (forall₂_of_readEntries hcheck) hmem'
      exact ((s.fields_fit entry hmem).buildsFilters_iff hrecord).mp
        (buildsFilters_of_read hselector)

/-- **A filter without problems is built, unless it fails late.**

* A filter is built exactly if it has no problems and does not fail late.
* What fails late has no problems, and is refused when it is built.
* In a definition with which nothing is wrong, the filters of a field that is kept are built exactly
  if none of them fails late.
* A definition with one that does is not loaded. -/
theorem filters_of_problems (settings : Settings) (raw : Data) :
    (∀ spec, (∃ filter, (Filter.build spec).run.value = .ok filter) ↔
      Filter.problems spec = .ok [] ∧ ¬ Filter.FailsLate spec) ∧
    (∀ spec, Filter.FailsLate spec → Filter.problems spec = .ok [] ∧
      ∃ problem, (Filter.build spec).run.value = .error (.badValue problem)) ∧
    (findings raw = .ok [] → ∀ fields, (raw.valueAt "search").valueAt "fields" = .map fields →
      ∀ entry ∈ fields, ∀ record, fieldRecord? entry.2 = some record →
        (BuildsFilters record ↔ ¬ HasLateFilter entry.2)) ∧
    (∀ d, (load settings raw).outcome = .ok d →
      ∀ fields, (raw.valueAt "search").valueAt "fields" = .map fields →
        ∀ entry ∈ fields, ¬ HasLateFilter entry.2) := by
  refine ⟨fun spec => Filter.exists_build_iff, fun spec hlate => ⟨hlate.problems_eq, ?_⟩, ?_, ?_⟩
  · cases hbuild : (Filter.build spec).run.value with
    | ok filter => exact absurd hlate (Filter.exists_build_iff.mp ⟨filter, hbuild⟩).2
    | error b =>
        obtain ⟨problem, rfl⟩ := Filter.build_refuses spec b hbuild
        exact ⟨problem, rfl⟩
  · intro hclean fields hfields entry hmem record hrecord
    obtain ⟨s⟩ := shape_of_findings hclean
    rw [s.search_eq, s.fields_eq] at hfields
    cases hfields
    exact (s.fields_fit entry hmem).buildsFilters_iff hrecord
  -- what has loaded was checked field by field, so no late filter is left
  · intro d hload fields hfields entry hmem
    exact not_hasLateFilter_of_load hload hfields hmem

/-! ## A bare name -/

def filteredWritten (filters : List Data) : Data :=
  .object [("id", .text "n"), ("links", .list [.text "https://example.org/"]),
    ("search", .object [("paths", samplePaths), ("rows", .object [("selector", .text "tr")]),
      ("fields", .object [("title", .object [("selector", .text "a"), ("filters", .list filters)]),
        ("download", .text "b")])])]

/-- A bare `trim` is built, and a definition with it is loaded. -/
theorem filters_of_problems_trim :
    (∃ filter, (Filter.build (.text "trim")).run.value = .ok filter) ∧
      ∃ d, (load {} (filteredWritten [.text "trim"])).outcome = .ok d ∧ ∀ fields,
        ((filteredWritten [.text "trim"]).valueAt "search").valueAt "fields" = .map fields →
          ∀ entry ∈ fields, ¬ HasLateFilter entry.2 := by
  obtain ⟨hbuild, _, _, hload⟩ := filters_of_problems {} (filteredWritten [.text "trim"])
  have htrim : ¬ Filter.FailsLate (.text "trim") := by
    rw [Filter.failsLate_text_iff]
    simp [Filter.needed?]
  have hloaded : (load {} (filteredWritten [.text "trim"])).outcome.isOk = true := by
    decide +kernel
  refine ⟨(hbuild _).mpr ⟨rfl, htrim⟩, ?_⟩
  cases houtcome : (load {} (filteredWritten [.text "trim"])).outcome with
  | error t =>
      rw [houtcome] at hloaded
      cases hloaded
  | ok d => exact ⟨d, rfl, hload d houtcome⟩

/-- **No problem is told of a bare `replace`, and it is not built**: nothing is wrong with a
definition that has it, and yet it is not loaded. -/
theorem bareReplace_failsLate :
    Filter.problems (.text "replace") = .ok [] ∧
      (Filter.build (.text "replace")).run.value =
        .error (.badValue (some "filter 'replace' needs 2 argument(s), got 0")) ∧
      findings (filteredWritten [.text "replace"]) = .ok [] ∧
      (load {} (filteredWritten [.text "replace"])).outcome.isOk = false := by
  refine ⟨rfl, by rfl, by decide +kernel, by decide +kernel⟩

end ReleaseSearch.Definition
