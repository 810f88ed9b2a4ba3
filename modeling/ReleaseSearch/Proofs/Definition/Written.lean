import ReleaseSearch.Proofs.Decimal.Double
import ReleaseSearch.Proofs.Definition.Read
import ReleaseSearch.Proofs.Definition.Shape
import ReleaseSearch.Proofs.Filter.Build

/-!
# Reading what is written

Where nothing is wrong with the shape of a written definition, little is left that can go wrong
while its record is made: its headers and inputs, a delay that is too large, and a name that cannot
be put in words.  `Shape.outcome_ofWritten` computes what comes of reading it, and
`Shape.outcome_recordOf` what comes of making its record.
-/

namespace ReleaseSearch.Definition

open Decimal Schema

@[simp] theorem outcome_lift (e : Except Breakdown α) :
    (lift e).outcome = e.mapError .breakdown := rfl

@[simp] theorem part_map (es : Entries) (key : String) :
    part (.map es) key = .ok ((Data.map es).valueAt key) := rfl

/-- An empty map stands for itself. -/
theorem orElse_map (es : Entries) : orElse (.map es) (.map []) = .map es := by
  cases es <;> rfl

theorem contents_list (items : List Data) : contents (.list items) = .ok items := by
  cases items <;> rfl

/-- What is absent holds nothing, as the empty list. -/
theorem contents_orElse (d : Data) : contents (orElse d (.list [])) = contents d := by
  by_cases h : d.isPresent = true
  · rw [orElse, if_pos h]
  · rw [orElse, if_neg h, contents_list]
    exact (if_pos (by simpa using h)).symm

/-- What is absent holds nothing. -/
theorem eq_nil_of_not_isPresent {d : Data} {items : List Data} (h : d.isPresent = false)
    (hitems : d.contents? = some items) : items = [] := by
  cases d with
  | text s =>
      have hempty : s = "" := by simpa [Data.isPresent] using h
      cases hempty
      exact (Option.some.inj hitems).symm
  | bytes bs =>
      have hempty : bs = [] := by simpa [Data.isPresent] using h
      cases hempty
      exact (Option.some.inj hitems).symm
  | list kept | set kept =>
      have hempty : kept = [] := by simpa [Data.isPresent] using h
      exact (Option.some.inj hitems).symm.trans hempty
  | map es =>
      have hempty : es = [] := by simpa [Data.isPresent] using h
      cases hempty
      exact (Option.some.inj hitems).symm
  | _ => cases hitems

theorem contents_eq_ok_iff {d : Data} {items : List Data} :
    contents d = .ok items ↔ d.isPresent = false ∧ items = [] ∨ d.contents? = some items := by
  unfold contents
  cases hpresent : d.isPresent with
  | false =>
      constructor
      · rintro ⟨⟩
        exact .inl ⟨rfl, rfl⟩
      · rintro (⟨_, rfl⟩ | hitems)
        · rfl
        · rw [eq_nil_of_not_isPresent hpresent hitems]
          rfl
  | true => cases d.contents? <;> simp

/-! ## Paths and rows -/

/-- Without paths the single path counts, if it is present. -/
theorem writtenPaths_of_null {es : Entries} (h : (Data.map es).valueAt "paths" = .null) :
    writtenPaths (.map es) >>= contents = .ok (if ((Data.map es).valueAt "path").isPresent
      then [(Data.map es).valueAt "path"] else []) := by
  unfold writtenPaths
  rw [part_map, part_map, Run.ok_bind, Run.ok_bind, h]
  show contents (if _ then _ else _) = _
  split <;> exact contents_list _

/-- With paths it does not. -/
theorem writtenPaths_of_ne_null {es : Entries} (h : (Data.map es).valueAt "paths" ≠ .null) :
    writtenPaths (.map es) >>= contents = contents ((Data.map es).valueAt "paths") := by
  unfold writtenPaths
  rw [part_map, part_map, Run.ok_bind, Run.ok_bind]
  split
  · next hnull => exact absurd hnull h
  · exact contents_orElse _

theorem PathFits.normalizePath {path : Data} (h : PathFits path) :
    ∃ record, normalizePath path = .ok record := by
  cases h with
  | text template => exact ⟨_, rfl⟩
  | map hpath => exact ⟨_, rfl⟩

theorem Shape.normalizePaths_of_mapM {raw : Data} (s : Shape raw) {records : List Data}
    (h : s.paths.mapM normalizePath = .ok records) :
    normalizePaths (.map s.search) = .ok (.list records) := by
  obtain ⟨written, hwritten, hcontents⟩ := bind_eq_ok_iff.mp s.paths_eq
  unfold normalizePaths
  exact bind_eq_ok_iff.mpr ⟨written, hwritten, bind_eq_ok_iff.mpr ⟨s.paths, hcontents,
    bind_eq_ok_iff.mpr ⟨records, h, rfl⟩⟩⟩

/-- Paths that fit are read, and there are some. -/
theorem Shape.normalizePaths {raw : Data} (s : Shape raw) :
    ∃ records, normalizePaths (.map s.search) = .ok (.list records) ∧ records ≠ [] := by
  obtain ⟨records, hrecords⟩ :=
    exists_mapM_ok_iff.mpr fun path hpath => (s.paths_fit path hpath).normalizePath
  refine ⟨records, s.normalizePaths_of_mapM hrecords, ?_⟩
  rintro rfl
  exact s.paths_ne (List.length_eq_zero_iff.mp (length_of_mapM_ok hrecords))

def Shape.rowRecord {raw : Data} (s : Shape raw) : Data :=
  .object [("selector", (Data.map s.rows).valueAt "selector"),
    ("skip_count", orElse ((Data.map s.rows).valueAt "after") (.int 0))]

theorem Shape.normalizeRows {raw : Data} (s : Shape raw) :
    normalizeRows (.map s.rows) = .ok s.rowRecord := by
  unfold Definition.normalizeRows
  rw [part_map, part_map]
  exact if_pos s.rows_present

/-! ## Fields -/

def fieldRecord (es : Entries) : Data :=
  .object [("selector", (Data.map es).valueAt "selector"),
    ("attribute", (Data.map es).valueAt "attribute"),
    ("filters", orElse ((Data.map es).valueAt "filters") (.list []))]

/-- The record of a field; a map without a selector has none. -/
def fieldRecord? : Data → Option Data
  | .text selector => some (.object [("selector", .text selector)])
  | .map es => if ((Data.map es).valueAt "selector").isPresent then some (fieldRecord es) else none
  | _ => none

def fieldRecords (fields : Entries) : Entries :=
  fields.filterMap fun field => (fieldRecord? field.2).map (field.1, ·)

/-- A field with a selector is kept. -/
theorem outcome_normalizeField_of_some {name field record : Data}
    (h : fieldRecord? field = some record) :
    (normalizeField name field).outcome = .ok (some record) := by
  cases field with
  | text selector =>
      cases h
      rfl
  | map es =>
      obtain ⟨hpresent, h⟩ := Option.ite_none_right_eq_some.mp h
      cases h
      exact congrArg Run.outcome (if_pos hpresent)
  | _ => cases h

/-- A field without a selector is left out, if its name can be put in words. -/
theorem FieldFits.outcome_normalizeField_of_none {name field : Data} (hfits : FieldFits field)
    (h : fieldRecord? field = none) :
    (normalizeField name field).outcome = (fun _ => none) <$> name.inWords.mapError .breakdown := by
  cases hfits with
  | text selector => cases h
  | @map es specs hfilters hspecs =>
      have habsent : ¬ ((Data.map es).valueAt "selector").isPresent = true := by
        intro hpresent
        rw [show fieldRecord? (.map es) = some (fieldRecord es) from if_pos hpresent] at h
        cases h
      have hnote : normalizeField name (.map es) = do
          let name ← lift name.inWords
          Run.note .warning Delay.source
            ("Field '" ++ name ++ "' has no selector and will be ignored")
          return none := if_neg habsent
      rw [hnote, Run.outcome_bind, outcome_lift]
      cases name.inWords <;> rfl

/-- A field that is left out and whose name cannot be put in words. -/
def IsUnspeakable (field : Data × Data) : Prop :=
  fieldRecord? field.2 = none ∧ ¬ field.1.isWritable = true

theorem FieldFits.outcome_normalizeField {field : Data × Data} (hfits : FieldFits field.2)
    (h : ¬ IsUnspeakable field) :
    (normalizeField field.1 field.2).outcome = .ok (fieldRecord? field.2) := by
  cases hrecord : fieldRecord? field.2 with
  | some record => exact outcome_normalizeField_of_some hrecord
  | none =>
      have hname : field.1.isWritable = true := by
        by_contra hlong
        exact h ⟨hrecord, hlong⟩
      rw [hfits.outcome_normalizeField_of_none hrecord, Data.inWords_of_isWritable hname]
      rfl

theorem outcome_normalizeFields_cons (field : Data × Data) (rest : Entries) :
    (normalizeFields (field :: rest)).outcome = do
      let found ← (normalizeField field.1 field.2).outcome
      let others ← (normalizeFields rest).outcome
      return (found.map (field.1, ·)).toList ++ others := by
  show Run.outcome (_ >>= _) = _
  rw [Run.outcome_bind]
  refine congrArg _ (funext fun found => ?_)
  rw [Run.outcome_bind]
  cases found <;> rfl

/-- Fields with speakable names are kept or left out, each by itself. -/
theorem outcome_normalizeFields {fields : Entries} (hfits : ∀ field ∈ fields, FieldFits field.2)
    (h : ∀ field ∈ fields, ¬ IsUnspeakable field) :
    (normalizeFields fields).outcome = .ok (fieldRecords fields) := by
  induction fields with
  | nil => rfl
  | cons field rest ih =>
      obtain ⟨hfirst, hrest⟩ := List.forall_mem_cons.mp hfits
      obtain ⟨hname, hnames⟩ := List.forall_mem_cons.mp h
      rw [outcome_normalizeFields_cons, hfirst.outcome_normalizeField hname, ih hrest hnames]
      unfold fieldRecords
      rw [List.filterMap_cons]
      cases fieldRecord? field.2 <;> rfl

/-- One that is not is enough to break the reading down. -/
theorem outcome_normalizeFields_of_unspeakable {fields : Entries}
    (hfits : ∀ field ∈ fields, FieldFits field.2) {field : Data × Data} (hmem : field ∈ fields)
    (h : IsUnspeakable field) :
    (normalizeFields fields).outcome = .error (.breakdown (.badValue none)) := by
  induction fields with
  | nil => cases hmem
  | cons first rest ih =>
      obtain ⟨hfirst, hrest⟩ := List.forall_mem_cons.mp hfits
      rw [outcome_normalizeFields_cons]
      by_cases hspeak : IsUnspeakable first
      · rw [hfirst.outcome_normalizeField_of_none hspeak.1,
          Data.inWords_of_not_isWritable hspeak.2]
        rfl
      · have hmem : field ∈ rest := by
          rcases List.mem_cons.mp hmem with rfl | hmem
          · exact absurd h hspeak
          · exact hmem
        rw [hfirst.outcome_normalizeField hspeak, ih hrest hmem]
        rfl

/-- Fields that are read are those that have a record. -/
theorem eq_fieldRecords_of_normalizeFields {fields records : Entries}
    (hfits : ∀ field ∈ fields, FieldFits field.2)
    (h : (normalizeFields fields).outcome = .ok records) : records = fieldRecords fields := by
  by_cases hspeak : ∀ field ∈ fields, ¬ IsUnspeakable field
  · rw [outcome_normalizeFields hfits hspeak] at h
    exact (Except.ok.inj h).symm
  · obtain ⟨field, hmem, hfield⟩ := not_forall₂.mp hspeak
    rw [outcome_normalizeFields_of_unspeakable hfits hmem (not_not.mp hfield)] at h
    cases h

/-! ## Reading the records of fields -/

/-- The filters of a list are read, whatever is written in it: they are built, or what keeps them
from it is a problem of the record. -/
theorem outcome_readFilters_cases {es : Entries} {specs : List Data}
    (h : Data.find? "filters" es = some (.list specs)) :
    (∃ filters, (Filter.buildAll specs).run.value = .ok filters ∧
      (FieldSelector.readFilters es).outcome = .ok (.fits filters)) ∨
    ∃ problem, (Filter.buildAll specs).run.value = .error (.badValue problem) ∧
      (FieldSelector.readFilters es).outcome =
        .ok ((Check.fail (.rule (problem.getD hiddenText))).under (.key "filters")) := by
  unfold FieldSelector.readFilters
  rw [h]
  by_cases hpresent : (Data.list specs).isPresent = true
  · simp only [hpresent, Bool.not_true, Bool.false_eq_true, if_false, Data.contents?]
    rw [Run.outcome_bind, Run.outcome_lift, Run.ok_bind]
    cases hbuild : (Filter.buildAll specs).run.value with
    | ok filters => exact .inl ⟨filters, rfl, rfl⟩
    | error b =>
        obtain ⟨problem, rfl⟩ := Filter.buildAll_refuses specs b hbuild
        exact .inr ⟨problem, rfl, rfl⟩
  · obtain rfl : specs = [] := by simpa [Data.isPresent] using hpresent
    exact .inl ⟨[], rfl, rfl⟩

theorem exists_outcome_read {field record : Data} (hfits : FieldFits field)
    (h : fieldRecord? field = some record) :
    ∃ check, (FieldSelector.read record).outcome = .ok check := by
  cases hfits with
  | text selector =>
      cases h
      exact ⟨_, rfl⟩
  | @map es specs hfilters hspecs =>
      obtain ⟨_, h⟩ := Option.ite_none_right_eq_some.mp h
      cases h
      have hfind : Data.find? "filters" [(.text "selector", (Data.map es).valueAt "selector"),
          (.text "attribute", (Data.map es).valueAt "attribute"), (.text "filters", .list specs)] =
          some (.list specs) := rfl
      obtain ⟨check, hcheck⟩ : ∃ check, (FieldSelector.readFilters _).outcome = .ok check := by
        rcases outcome_readFilters_cases hfind with ⟨_, _, h⟩ | ⟨_, _, h⟩ <;> exact ⟨_, h⟩
      unfold fieldRecord
      rw [hfilters]
      unfold FieldSelector.read Data.object
      dsimp only [List.map]
      rw [Run.outcome_bind_of_ok hcheck]
      exact ⟨_, rfl⟩

/-- The records of fields are read. -/
theorem exists_outcome_readEntries {fields : Entries}
    (hfits : ∀ field ∈ fields, FieldFits field.2) :
    ∃ check, (FieldSelector.readEntries (fieldRecords fields)).outcome = .ok check := by
  induction fields with
  | nil => exact ⟨_, rfl⟩
  | cons field rest ih =>
      obtain ⟨hfirst, hrest⟩ := List.forall_mem_cons.mp hfits
      obtain ⟨others, hothers⟩ := ih hrest
      unfold fieldRecords at hothers ⊢
      rw [List.filterMap_cons]
      cases hrecord : fieldRecord? field.2 with
      | none => exact ⟨others, hothers⟩
      | some record =>
          obtain ⟨first, hread⟩ := exists_outcome_read hfirst hrecord
          dsimp only [Option.map_some]
          unfold FieldSelector.readEntries
          rw [Run.outcome_bind_of_ok hread, Run.outcome_bind_of_ok hothers]
          exact ⟨_, rfl⟩

/-! ## Delays -/

/-- Why the number of a delay is none: an integer that is beyond the largest double. -/
def IsTooLarge (delay : Data) : Prop := ∃ n, delay = .int n ∧ ofInt? n = none

theorem number_of_isTooLarge {delay : Data} (h : IsTooLarge delay) :
    Delay.number delay = .error .tooLarge := by
  obtain ⟨n, rfl, hn⟩ := h
  simp only [Delay.number, hn]

theorem exists_number {delay : Data} (hfits : isNonNegative delay = true) (h : ¬ IsTooLarge delay) :
    ∃ x, Delay.number delay = .ok x := by
  cases delay with
  | float x => exact ⟨x, rfl⟩
  | int n =>
      cases hn : ofInt? n with
      | none => exact absurd ⟨n, rfl, hn⟩ h
      | some x => exact ⟨x, by simp only [Delay.number, hn]⟩
  | _ => cases hfits

/-- What is no number breaks the reading down. -/
theorem outcome_normalize_of_error {delay : Data} (hdelay : delay ≠ .null) {b : Breakdown}
    (h : Delay.number delay = .error b) (unit : Data) (id : String) :
    (Delay.normalize delay unit id).outcome = .error (.breakdown b) := by
  unfold Delay.normalize
  split
  · exact absurd rfl hdelay
  · rw [h]
    rfl

theorem outcome_normalize_of_isTooLarge {delay : Data} (h : IsTooLarge delay) (unit : Data)
    (id : String) : (Delay.normalize delay unit id).outcome = .error (.breakdown .tooLarge) := by
  refine outcome_normalize_of_error ?_ (number_of_isTooLarge h) unit id
  obtain ⟨n, rfl, _⟩ := h
  simp

/-- A number in a known unit is read as seconds. -/
theorem exists_outcome_normalize_of_ok {delay : Data} {x : Float} (h : Delay.number delay = .ok x)
    {unit : Data} (hunit : unit = .null ∨
      ∃ name, Delay.unitName unit = .ok name ∧ name ∈ delayUnits) (id : String) :
    ∃ seconds, (Delay.normalize delay unit id).outcome = .ok seconds := by
  unfold Delay.normalize
  split
  · exact ⟨none, rfl⟩
  · rw [h, Run.mapError_ok, Run.ofExcept_ok_bind]
    split
    · exact ⟨none, rfl⟩
    · split
      · exact ⟨_, rfl⟩
      · next hwritten =>
        -- The unit is a known name here: no unit at all was the case before.
        rcases hunit with rfl | ⟨name, hname, hknown⟩
        · exact absurd rfl hwritten
        · rw [hname, Run.mapError_ok, Run.ofExcept_ok_bind]
          split
          · exact ⟨_, rfl⟩
          · next hseconds =>
            have hmillis : Delay.millisecondsUnits.contains name = true := by
              rw [delayUnits, List.mem_append] at hknown
              exact List.contains_iff_mem.mpr
                (hknown.resolve_left (mt List.contains_iff_mem.mpr hseconds))
            rw [if_pos hmillis]
            exact ⟨_, rfl⟩

/-- A delay is read unless it is too large. -/
theorem Shape.exists_outcome_normalize {raw : Data} (s : Shape raw)
    (h : ¬ IsTooLarge (raw.valueAt "request_delay")) (id : String) :
    ∃ seconds, (Delay.normalize (raw.valueAt "request_delay")
      (raw.valueAt "request_delay_unit") id).outcome = .ok seconds := by
  rcases s.delay_fits with hnull | hfits
  · rw [hnull]
    exact ⟨none, rfl⟩
  · obtain ⟨x, hx⟩ := exists_number hfits h
    exact exists_outcome_normalize_of_ok hx s.unit_fits id

/-! ## The record -/

section Record

variable {raw : Data}

theorem Shape.part (s : Shape raw) (key : String) : part raw key = .ok (raw.valueAt key) := by
  obtain ⟨es, rfl⟩ := s.isMap
  rfl

def Shape.headers (s : Shape raw) : Data := (Data.map s.search).valueAt "headers"

def Shape.inputs (s : Shape raw) : Data := (Data.map s.search).valueAt "inputs"

/-- The record of a written definition, made of its parts. -/
def Shape.record (s : Shape raw) (id : String) (paths : List Data)
    (headers : List (String × String)) (inputs : Data) (delay : Option Float) : Entries :=
  [(.text "id", .text id), (.text "name", orElse (raw.valueAt "name") (.text id)),
    (.text "base_urls", .list s.links), (.text "search_paths", .list paths),
    (.text "row_selector", s.rowRecord), (.text "field_selectors", .map (fieldRecords s.fields)),
    (.text "headers", .list (headers.map fun h => .list [.text h.1, .text h.2])),
    (.text "inputs", inputs), (.text "request_delay", .optional .float delay),
    (.text "follow_redirect", .bool (((raw.get? "follow_redirect").or
      (raw.get? "followredirect")).any Data.isPresent))]

/-- The fields of the record are read one after the other. -/
theorem Shape.outcome_readFields (s : Shape raw) (id : String) (paths : List Data)
    (headers : List (String × String)) (inputs : Data) (delay : Option Float) :
    (readFields (s.record id paths headers inputs delay)).outcome =
      (·.under (.key "field_selectors")) <$>
        (FieldSelector.readEntries (fieldRecords s.fields)).outcome := Run.outcome_map _ _

/-- Only headers, inputs and the delay have a say in whether the record is made. -/
theorem Shape.outcome_recordOf (s : Shape raw) (settings : Settings) (id : String)
    {paths : List Data} (hpaths : Definition.normalizePaths (.map s.search) = .ok (.list paths)) :
    (recordOf settings raw (.map s.search) (.map s.rows) id (fieldRecords s.fields)).outcome = do
      let headers ← (normalizeHeaders settings s.headers).mapError .breakdown
      let inputs ← (normalizeInputs s.inputs).mapError .breakdown
      let delay ← (Delay.normalize (raw.valueAt "request_delay")
        (raw.valueAt "request_delay_unit") id).outcome
      return s.record id paths headers inputs delay := by
  have hlinks : contents (raw.valueAt "links") = .ok s.links := by
    rw [s.links_eq, contents_list]
  unfold recordOf
  simp only [s.part, part_map, hpaths, s.normalizeRows, Run.outcome_bind, outcome_lift,
    Run.mapError_ok, Run.ok_bind, Except.bind, hlinks]
  rfl

/-- The id, the fields and the record are read one after the other; what goes wrong with the record
becomes a failure where it can. -/
theorem Shape.outcome_ofWritten (s : Shape raw) (settings : Settings) :
    (ofWritten settings raw).outcome = (do
      let id ← ((raw.get? "id").elim (.ok "") Data.inWords).mapError .breakdown
      let fields ← (normalizeFields s.fields).outcome
      Except.mapError (readingTrouble id)
        ((recordOf settings raw (.map s.search) (.map s.rows) id fields).outcome
          >>= fun es => (ofEntries es).outcome)) := by
  unfold ofWritten
  simp only [s.part, s.search_eq, orElse_map, part_map, s.rows_eq, s.fields_eq, Run.outcome_bind,
    outcome_lift, Run.mapError_ok, Run.ok_bind, Run.outcome_attempt, Run.outcome_ofExcept]

end Record

end ReleaseSearch.Definition
