import ReleaseSearch.Proofs.Definition.Written

/-!
# Definitions that are loaded

A written definition is loaded if nothing is wrong with its shape and its record can be read.
`exists_record_of_load` takes the loading apart, and `CanDrive d` says what every loaded definition
has: all that a search needs.
-/

namespace ReleaseSearch

open Decimal Schema

namespace Definition

/-! ## Loading -/

variable {settings : Settings} {raw : Data}

/-- What cannot be looked at is not loaded. -/
theorem load_of_error {b : Breakdown} (h : findings raw = .error b) :
    (load settings raw).outcome = .error (.breakdown b) := by
  refine Run.outcome_bind_of_error ?_ _
  rw [outcome_lift, h]
  rfl

/-- Where nothing is wrong, what is written is read. -/
theorem load_of_clean (h : findings raw = .ok []) :
    (load settings raw).outcome = (ofWritten settings raw).outcome := by
  refine Run.outcome_bind_of_ok (a := []) ?_ _
  rw [outcome_lift, h]
  rfl

/-- Where something is wrong it is told, if the id can be put in words. -/
theorem load_of_findings {text : String} {texts : List String}
    (h : findings raw = .ok (text :: texts)) :
    (load settings raw).outcome =
      (((raw.get? "id").bind Data.present?).elim (.ok "<unknown>") Data.inWords).mapError .breakdown
        >>= fun id => .error (.failure
          { kind := .definition (.findings (text :: texts))
            message := "Invalid definition for indexer '" ++ id ++ "'" }) := by
  have hlift : (lift (findings raw)).outcome = .ok (text :: texts) := by
    rw [outcome_lift, h]
    rfl
  refine (Run.outcome_bind_of_ok hlift _).trans ?_
  rw [Run.outcome_bind, outcome_lift]
  rfl

theorem load_eq_ok_iff {d : Definition} :
    (load settings raw).outcome = .ok d ↔
      findings raw = .ok [] ∧ (ofWritten settings raw).outcome = .ok d := by
  cases hfindings : findings raw with
  | error b => simp [load_of_error hfindings]
  | ok texts =>
      cases texts with
      | nil => simp [load_of_clean hfindings]
      | cons text rest =>
          rw [load_of_findings hfindings]
          generalize Option.elim _ _ _ = id
          cases id <;> simp [Run.mapError_error]

/-- **A loaded definition is one that is read from the record of its parts.** -/
theorem exists_record_of_load {d : Definition}
    (h : (load settings raw).outcome = .ok d) :
    ∃ (s : Shape raw) (id : String) (paths : List Data) (headers : List (String × String))
      (inputs : Data) (delay : Option Float), paths ≠ [] ∧
      normalizeHeaders settings s.headers = .ok headers ∧
      (Delay.normalize (raw.valueAt "request_delay")
        (raw.valueAt "request_delay_unit") id).outcome = .ok delay ∧
      Reads (s.record id paths headers inputs delay) d := by
  -- Loading went through step by step, so every step gave something.
  obtain ⟨hfindings, h⟩ := load_eq_ok_iff.mp h
  obtain ⟨s⟩ := shape_of_findings hfindings
  rw [s.outcome_ofWritten] at h
  obtain ⟨id, _, h⟩ := bind_eq_ok_iff.mp h
  obtain ⟨fields, hfields, h⟩ := bind_eq_ok_iff.mp h
  obtain rfl := eq_fieldRecords_of_normalizeFields s.fields_fit hfields
  obtain ⟨es, hrecord, hread⟩ := bind_eq_ok_iff.mp (mapError_eq_ok_iff.mp h)
  obtain ⟨paths, hpaths, hne⟩ := s.normalizePaths
  rw [s.outcome_recordOf settings id hpaths] at hrecord
  obtain ⟨headers, hheaders, hrecord⟩ := bind_eq_ok_iff.mp hrecord
  obtain ⟨inputs, _, hrecord⟩ := bind_eq_ok_iff.mp hrecord
  obtain ⟨delay, hdelay, hrecord⟩ := bind_eq_ok_iff.mp hrecord
  cases hrecord
  exact ⟨s, id, paths, headers, inputs, delay, hne, mapError_eq_ok_iff.mp hheaders, hdelay,
    reads_of_ofEntries hread⟩

/-! ## What a loaded definition has -/

/-- A definition that can drive a search: it says where the site and the rows are, and where the
title and the link of a result. -/
structure CanDrive (d : Definition) : Prop where
  id : d.id ≠ ""
  baseUrl : d.baseUrls ≠ []
  searchPath : d.searchPaths ≠ []
  rowSelector : ∃ rowsAt, d.rowSelector = some rowsAt ∧ rowsAt.selector ≠ ""
  fields : ∀ name ∈ requiredFields, ∃ field, (name, field) ∈ d.fieldSelectors
  userAgent : ∃ header ∈ d.headers, isUserAgent header = true

/-- The header that is never left out. -/
theorem exists_userAgent (settings : Settings) (headers : List (String × String)) :
    ∃ header ∈ withUserAgent settings headers, isUserAgent header = true := by
  unfold withUserAgent
  by_cases h : headers.any isUserAgent = true
  · rw [if_pos h]
    exact List.any_eq_true.mp h
  · rw [if_neg h]
    refine ⟨(userAgentName, settings.userAgent), by simp, ?_⟩
    show Text.lower userAgentName == "user-agent"
    decide +kernel

theorem mem_of_find? {key : String} {es : Entries} {value : Data}
    (h : Data.find? key es = some value) : (Data.text key, value) ∈ es := by
  fun_induction Data.find? key es with
  | case1 => cases h
  | case2 k value' rest hkey =>
      cases h
      rw [beq_iff_eq.mp hkey]
      exact List.mem_cons_self
  | case3 k value' rest _ ih => exact List.mem_cons_of_mem _ (ih h)
  | case4 entry rest _ ih => exact List.mem_cons_of_mem _ (ih h)

/-- A field that is needed and fits has a record. -/
theorem exists_fieldRecord {fields : Entries} {name : String} (hfield : hasField fields name = true)
    (hfits : ∀ field ∈ fields, FieldFits field.2) :
    ∃ record, (Data.text name, record) ∈ fieldRecords fields := by
  unfold hasField at hfield
  cases hfind : Data.find? name fields with
  | none =>
      rw [hfind] at hfield
      cases hfield
  | some field =>
      have hmem := mem_of_find? hfind
      have hrecord : ∃ record, fieldRecord? field = some record := by
        cases hfits _ hmem with
        | text selector => exact ⟨_, rfl⟩
        | @map es specs hfilters hspecs =>
            rw [hfind] at hfield
            exact ⟨fieldRecord es, if_pos hfield⟩
      obtain ⟨record, hrecord⟩ := hrecord
      exact ⟨record, List.mem_filterMap.mpr ⟨_, hmem, by rw [hrecord]; rfl⟩⟩

/-- What is read from the record of fields: each has a name and a selector that are read. -/
theorem forall₂_of_readEntries {es : Entries} {selectors : List (String × FieldSelector)}
    (h : (FieldSelector.readEntries es).outcome = .ok (.fits selectors)) :
    List.Forall₂ (fun entry selector => text entry.1 = .fits selector.1 ∧
      (FieldSelector.read entry.2).outcome = .ok (.fits selector.2)) es selectors := by
  induction es generalizing selectors with
  | nil =>
      cases h
      exact .nil
  | cons entry rest ih =>
      unfold FieldSelector.readEntries at h
      rw [Run.outcome_bind] at h
      obtain ⟨field, hfield, h⟩ := bind_eq_ok_iff.mp h
      rw [Run.outcome_bind] at h
      obtain ⟨others, hothers, h⟩ := bind_eq_ok_iff.mp h
      obtain ⟨_, tail, hhead, htail, rfl⟩ := Check.seq_eq_fits_iff.mp (Except.ok.inj h)
      obtain ⟨pair, hpair, rfl⟩ := Check.map_eq_fits_iff.mp hhead
      obtain ⟨_, selector, hkey, hselector, rfl⟩ := Check.seq_eq_fits_iff.mp hpair
      obtain ⟨name, hname, rfl⟩ := Check.map_eq_fits_iff.mp hkey
      rw [Check.under_eq_fits_iff.mp hselector] at hfield
      rw [htail] at hothers
      exact .cons ⟨Check.under_eq_fits_iff.mp (Check.under_eq_fits_iff.mp hname), hfield⟩
        (ih hothers)

/-- **Every loaded definition can drive a search.** -/
theorem canDrive_of_load {d : Definition} (h : (load settings raw).outcome = .ok d) :
    CanDrive d := by
  obtain ⟨s, id, paths, headers, inputs, delay, hpaths, hheaders, _, hreads⟩ :=
    exists_record_of_load h
  have hrows := fits_of_take (d := s.rowRecord) rfl hreads.rowSelector
  constructor
  case id => exact hreads.id_ne
  case baseUrl =>
    exact ne_nil_of_tuple_fits (fits_of_take (d := .list s.links) rfl hreads.baseUrls) s.links_ne
  case searchPath =>
    exact ne_nil_of_tuple_fits (fits_of_take (d := .list paths) rfl hreads.searchPaths) hpaths
  case rowSelector =>
    have hwritten : s.rowRecord ≠ .null := by simp [Shape.rowRecord, Data.object]
    obtain ⟨rowsAt, hread, hrows⟩ := (nullable_eq_fits_iff hwritten).mp hrows
    obtain ⟨_, _, hparts, _, rfl⟩ := Check.seq_eq_fits_iff.mp hread
    obtain ⟨selector, hselector, rfl⟩ := Check.map_eq_fits_iff.mp hparts
    -- a selector that is read is a text that is not empty
    obtain ⟨value, _, hvalue⟩ := exists_of_need_fits hselector
    exact ⟨_, hrows, ne_of_filledText_fits hvalue⟩
  case fields =>
    intro name hname
    obtain ⟨record, hrecord⟩ := exists_fieldRecord (s.required name hname) s.fields_fit
    have hfields := hreads.fieldSelectors
    rw [s.outcome_readFields] at hfields
    obtain ⟨check, hcheck, hfits⟩ := map_eq_ok_iff.mp hfields
    rw [Check.under_eq_fits_iff.mp hfits] at hcheck
    -- reading keeps the records in their order, each under its name
    obtain ⟨⟨_, field⟩, hmem, hkey, _⟩ :=
      exists_mem_of_forall₂ (forall₂_of_readEntries hcheck) hrecord
    cases hkey
    exact ⟨field, hmem⟩
  case userAgent =>
    obtain ⟨written, _, rfl⟩ := map_eq_ok_iff.mp hheaders
    have hread := fits_of_take rfl hreads.headers
    rw [tuple_pair_text] at hread
    rw [← Check.fits.inj hread]
    exact exists_userAgent settings written

/-- The delay of a loaded definition is not negative. -/
theorem requestDelay_nonneg_of_load {d : Definition} (h : (load settings raw).outcome = .ok d)
    {x : Float} (hx : d.requestDelay = some x) : 0 ≤ x := by
  obtain ⟨_, _, _, _, _, _, _, _, _, hreads⟩ := exists_record_of_load h
  exact hreads.requestDelay_nonneg hx

/-! ## A sample -/

def sampleWritten (paths delay : Data) : Data :=
  .object [("id", .text "n"), ("links", .list [.text "https://example.org/"]),
    ("request_delay", delay),
    ("search", .object [("paths", paths), ("rows", .object [("selector", .text "tr")]),
      ("fields", .object [("title", .text "a"), ("download", .text "b")])])]

def samplePaths : Data := .list [.object [("path", .text "/s")]]

end Definition

end ReleaseSearch
