import ReleaseSearch.Proofs.Definition.Spelled

/-!
# Reading what is spelled out

The record of a definition that is spelled out is not the record of the short form, but both are
read to the same end.  So a plain shorthand makes no difference to the loading.
-/

namespace ReleaseSearch.Definition

open Schema

/-! ## Paths -/

/-- Two records of paths are read alike. -/
def PathsReadAlike (written written' : Data) : Prop :=
  record SearchPath.read written = record SearchPath.read written'

/-- A path that is spelled out is read as before. -/
theorem SpellsPath.normalizePath_cases {may : String → Prop} {path path' : Data}
    (h : SpellsPath may path path') (hfits : PathFits path) :
    ∃ written written', normalizePath path = .ok written ∧ normalizePath path' = .ok written' ∧
      PathsReadAlike written written' := by
  cases h with
  | same =>
      obtain ⟨written, hwritten⟩ := hfits.normalizePath
      exact ⟨written, written, hwritten, hwritten, rfl⟩
  | @template template =>
      refine ⟨_, _, rfl, rfl, ?_⟩
      have hmethod : Method.ofData (.text "get") = .get := by decide +kernel
      show Check.fits (SearchPath.mk template .get []) =
        .fits (SearchPath.mk template (Method.ofData (.text "get")) [])
      rw [hmethod]

theorem normalizePath_mapM_cases {may : String → Prop} {paths paths' : List Data}
    (h : List.Forall₂ (SpellsPath may) paths paths') (hfit : ∀ path ∈ paths, PathFits path) :
    ∃ written written', paths.mapM normalizePath = .ok written ∧
      paths'.mapM normalizePath = .ok written' ∧
      List.Forall₂ PathsReadAlike written written' := by
  induction h with
  | nil => exact ⟨[], [], rfl, rfl, .nil⟩
  | cons hfirst _ ih =>
      obtain ⟨hfits, hrest⟩ := List.forall_mem_cons.mp hfit
      obtain ⟨d, d', hd, hd', hsame⟩ := hfirst.normalizePath_cases hfits
      obtain ⟨written, written', hwritten, hwritten', hall⟩ := ih hrest
      refine ⟨d :: written, d' :: written', ?_, ?_, .cons hsame hall⟩
      · rw [List.mapM_cons, hd, hwritten]
        rfl
      · rw [List.mapM_cons, hd', hwritten']
        rfl

/-! ## Fields -/

/-- Two records of fields are read alike. -/
def FieldsReadAlike (written written' : Data) : Prop :=
  (FieldSelector.read written).outcome = (FieldSelector.read written').outcome

theorem outcome_readFilters_congr {es es' : Entries} {specs specs' : List Data}
    (hfind : Data.find? "filters" es = some (.list specs))
    (hfind' : Data.find? "filters" es' = some (.list specs'))
    (hbuild : Filter.buildAll specs = Filter.buildAll specs') :
    (FieldSelector.readFilters es).outcome = (FieldSelector.readFilters es').outcome := by
  rcases outcome_readFilters_cases hfind with ⟨_, h, hread⟩ | ⟨_, h, hread⟩ <;>
    rcases outcome_readFilters_cases hfind' with ⟨_, h', hread'⟩ | ⟨_, h', hread'⟩ <;>
    rw [hbuild, h'] at h <;> cases h <;> rw [hread, hread']

/-- Filters that are spelled out are built as before, so the record of their field is read as
before. -/
theorem SpellsEntries.fieldsReadAlike {may : String → Prop} {es es' : Entries}
    (h : SpellsEntries (SpellsFilters may) es es') :
    FieldsReadAlike (fieldRecord es) (fieldRecord es') := by
  have hfilters := (h.values "filters").orElse
  unfold FieldsReadAlike fieldRecord
  rw [(h.values "selector").eq_of_ne (by decide), (h.values "attribute").eq_of_ne (by decide)]
  generalize orElse ((Data.map es).valueAt "filters") (.list []) = v at hfilters
  generalize orElse ((Data.map es').valueAt "filters") (.list []) = v' at hfilters
  cases hfilters with
  | same => rfl
  | filters _ hspecs =>
      -- The lists differ, and the runs that build them do not.
      have hlawful := lawfulMonad_logged
      have hbuild := mapM_eq_of_forall₂ (hspecs.imp fun _ _ hspec => hspec.build_eq)
      unfold FieldSelector.read Data.object
      dsimp only [List.map]
      refine (Run.EndsAlike.bind (.of_outcome_eq ?_) ?_).outcome_eq
      · exact outcome_readFilters_congr rfl rfl hbuild
      · rintro check _ rfl
        exact .refl (fun _ => rfl) _

section Fields

variable {lacks : Prop}

/-- A field that is spelled out is kept if it was, and its record is read as before. -/
theorem SpellsField.fieldRecord?_rel {field field' : Data}
    (h : SpellsField Shorthand.IsPlain lacks field field') (hlacks : ¬ lacks) :
    Option.Rel FieldsReadAlike (fieldRecord? field) (fieldRecord? field') := by
  cases h with
  | same =>
      cases fieldRecord? field with
      | none => exact .none
      | some written => exact .some rfl
  | @selector selector h =>
      have hpresent : ((Data.object [("selector", .text selector)]).valueAt "selector").isPresent =
          true := bne_iff_ne.mpr (h hlacks)
      rw [show fieldRecord? (.object [("selector", .text selector)]) =
        some (fieldRecord [(.text "selector", .text selector)]) from if_pos hpresent]
      exact .some rfl
  | @filters es es' h =>
      have hselector := (h.values "selector").eq_of_ne (by decide)
      show Option.Rel FieldsReadAlike (if _ then _ else _) (if _ then _ else _)
      rw [hselector]
      split
      · exact .some h.fieldsReadAlike
      · exact .none

/-- Fields that are spelled out end alike. -/
theorem SpellsPlaces.normalizeFields_endsAlike {fields fields' : Entries}
    (h : SpellsPlaces (SpellsField Shorthand.IsPlain lacks) fields fields') (hlacks : ¬ lacks)
    (hfits : ∀ entry ∈ fields, FieldFits entry.2) (hfits' : ∀ entry ∈ fields', FieldFits entry.2) :
    Run.EndsAlike (SpellsPlaces FieldsReadAlike) (normalizeFields fields)
      (normalizeFields fields') := by
  induction h with
  | nil => exact .ok rfl rfl .nil
  | @cons entry entry' rest rest' hentry _ ih =>
      obtain ⟨name, field⟩ := entry
      obtain ⟨_, field'⟩ := entry'
      obtain ⟨rfl, hfield⟩ := hentry
      obtain ⟨hfirst, hrest⟩ := List.forall_mem_cons.mp hfits
      obtain ⟨hfirst', hrest'⟩ := List.forall_mem_cons.mp hfits'
      -- Both fields are kept or both are dropped, and a field that is dropped may still fail by its
      -- name.
      have hkept : Run.EndsAlike (Option.Rel FieldsReadAlike) (normalizeField name field)
          (normalizeField name field') := by
        have hrel := hfield.fieldRecord?_rel hlacks
        generalize hrecord : fieldRecord? field = written at hrel
        generalize hrecord' : fieldRecord? field' = written' at hrel
        cases hrel with
        | some hsame =>
            exact .ok (outcome_normalizeField_of_some hrecord)
              (outcome_normalizeField_of_some hrecord') (.some hsame)
        | none =>
            have hends : (normalizeField name field).outcome = _ :=
              hfirst.outcome_normalizeField_of_none hrecord
            have hends' : (normalizeField name field').outcome = _ :=
              hfirst'.outcome_normalizeField_of_none hrecord'
            generalize name.inWords = words at hends hends'
            cases words with
            | ok text => exact .ok hends hends' .none
            | error b => exact .error hends hends'
      unfold normalizeFields
      refine hkept.bind fun found found' hfound => (ih hrest hrest').bind fun _ _ hothers => ?_
      cases hfound with
      | none => exact .ok rfl rfl hothers
      | some hsame => exact .ok rfl rfl (.cons ⟨rfl, hsame⟩ hothers)

/-- Records that are read alike are read alike one after the other. -/
theorem SpellsPlaces.outcome_readEntries_eq {es es' : Entries}
    (h : SpellsPlaces FieldsReadAlike es es') :
    (FieldSelector.readEntries es).outcome = (FieldSelector.readEntries es').outcome := by
  induction h with
  | nil => rfl
  | @cons entry entry' rest rest' hentry _ ih =>
      obtain ⟨name, written⟩ := entry
      obtain ⟨_, written'⟩ := entry'
      obtain ⟨rfl, hsame⟩ := hentry
      unfold FieldSelector.readEntries
      rw [Run.outcome_bind, Run.outcome_bind, show _ = _ from hsame]
      refine congrArg _ (funext fun field => ?_)
      rw [Run.outcome_bind, Run.outcome_bind, ih]

end Fields

/-! ## The record -/

/-- Items that are read alike make tuples that are. -/
theorem tuple_congr {α : Type} {check : Data → Check α} {items items' : List Data}
    (h : List.Forall₂ (fun d d' => check d = check d') items items') :
    tuple check (.list items) = tuple check (.list items') := by
  suffices hitems : ∀ i, checkItems check i items = checkItems check i items' from hitems 0
  induction h with
  | nil => exact fun _ => rfl
  | cons hfirst _ ih =>
      intro i
      unfold checkItems
      rw [hfirst, ih]

section Shapes

variable {raw raw' : Data}

/-- Two definitions with which nothing is wrong, and of which one is the other with plain shorthands
spelled out. -/
structure Shape.Matches (s : Shape raw) (s' : Shape raw') : Prop where
  outside : ∀ key, key ≠ "search" → raw.get? key = raw'.get? key
  inside : ∀ key, key ≠ "paths" → key ≠ "path" → key ≠ "fields" →
    (Data.map s.search).valueAt key = (Data.map s'.search).valueAt key
  paths : List.Forall₂ (SpellsPath (· ≠ "")) s.paths s'.paths
  fields : SpellsPlaces (SpellsField Shorthand.IsPlain (Lacks s.fields)) s.fields s'.fields

/-- A definition with which nothing is wrong lacks no field. -/
theorem Shape.not_lacks (s : Shape raw) : ¬ Lacks s.fields := by
  rintro ⟨name, hname, hmissing⟩
  exact absurd (s.required name hname) (by simp [hmissing])

namespace Shape.Matches

variable {s : Shape raw} {s' : Shape raw'}

theorem valueAt_eq (h : s.Matches s') {key : String} (hkey : key ≠ "search") :
    raw.valueAt key = raw'.valueAt key := by
  unfold Data.valueAt
  rw [h.outside key hkey]

theorem links_eq (h : s.Matches s') : s.links = s'.links :=
  Data.list.inj (s.links_eq.symm.trans ((h.valueAt_eq (by decide)).trans s'.links_eq))

theorem rows_eq (h : s.Matches s') : s.rows = s'.rows :=
  Data.map.inj (s.rows_eq.symm.trans
    ((h.inside "rows" (by decide) (by decide) (by decide)).trans s'.rows_eq))

/-- Their records are read alike if the paths and fields of these are. -/
theorem outcome_ofEntries_eq (h : s.Matches s')
    (hfields : SpellsPlaces FieldsReadAlike (fieldRecords s.fields) (fieldRecords s'.fields))
    {paths paths' : List Data} (hpaths : List.Forall₂ PathsReadAlike paths paths') (id : String)
    (headers : List (String × String)) (inputs : Data) (delay : Option Float) :
    (ofEntries (s.record id paths headers inputs delay)).outcome =
      (ofEntries (s'.record id paths' headers inputs delay)).outcome := by
  have hread : (readEntries (s.record id paths headers inputs delay)).outcome =
      (readEntries (s'.record id paths' headers inputs delay)).outcome := by
    unfold readEntries
    refine (Run.EndsAlike.bind (.of_outcome_eq ?_) ?_).outcome_eq
    · rw [s.outcome_readFields, s'.outcome_readFields, hfields.outcome_readEntries_eq]
    · rintro fields _ rfl
      have htake : take (s.record id paths headers inputs delay) "search_paths" []
          (tuple (Schema.record SearchPath.read)) =
          take (s'.record id paths' headers inputs delay) "search_paths" []
            (tuple (Schema.record SearchPath.read)) :=
        congrArg (Check.under (.key "search_paths")) (tuple_congr hpaths)
      rw [htake]
      unfold Shape.record Shape.rowRecord
      -- What is left are equal lists but for the paths and fields, which are not looked at again.
      rw [h.valueAt_eq (show "name" ≠ "search" by decide), h.links_eq, h.rows_eq,
        h.outside "follow_redirect" (by decide), h.outside "followredirect" (by decide)]
      exact .refl (fun _ => rfl) _
  unfold ofEntries
  refine (Run.EndsAlike.bind (.of_outcome_eq hread) ?_).outcome_eq
  rintro check _ rfl
  exact .refl (fun _ => rfl) _

/-- They are read to the same end. -/
theorem outcome_ofWritten_eq (h : s.Matches s') (settings : Settings) :
    (ofWritten settings raw).outcome = (ofWritten settings raw').outcome := by
  obtain ⟨paths, paths', hpaths, hpaths', hall⟩ := normalizePath_mapM_cases h.paths s.paths_fit
  rw [s.outcome_ofWritten, s'.outcome_ofWritten, h.outside "id" (by decide)]
  refine bind_congr fun id => ?_
  -- The records are made and read only if the fields can be named; they are not the same records.
  cases h.fields.normalizeFields_endsAlike s.not_lacks s.fields_fit s'.fields_fit with
  | error hends hends' => rw [hends, hends', Run.error_bind, Run.error_bind]
  | ok hends hends' hrecords =>
      obtain rfl := eq_fieldRecords_of_normalizeFields s.fields_fit hends
      obtain rfl := eq_fieldRecords_of_normalizeFields s'.fields_fit hends'
      have hheaders : s.headers = s'.headers :=
        h.inside "headers" (by decide) (by decide) (by decide)
      have hinputs : s.inputs = s'.inputs := h.inside "inputs" (by decide) (by decide) (by decide)
      rw [hends, hends', Run.ok_bind, Run.ok_bind,
        s.outcome_recordOf settings id (s.normalizePaths_of_mapM hpaths),
        s'.outcome_recordOf settings id (s'.normalizePaths_of_mapM hpaths'), hheaders, hinputs,
        h.valueAt_eq (show "request_delay" ≠ "search" by decide),
        h.valueAt_eq (show "request_delay_unit" ≠ "search" by decide)]
      refine congrArg (Except.mapError (readingTrouble id)) ?_
      simp only [bind_assoc]
      refine bind_congr fun headers => bind_congr fun inputs => bind_congr fun delay => ?_
      exact h.outcome_ofEntries_eq hrecords hall id headers inputs delay

end Shape.Matches

/-- What is spelled out has the shape of what it spells out. -/
theorem SpellsOut.shapes (h : SpellsOut Shorthand.IsPlain raw raw') (s : Shape raw)
    (s' : Shape raw') : s.Matches s' := by
  obtain ⟨es, rfl⟩ := s.isMap
  obtain ⟨es', rfl⟩ := s'.isMap
  have hparts := h.entries
  have hsearch := hparts.values "search"
  rw [s.search_eq, s'.search_eq] at hsearch
  have hentries := hsearch.entries
  constructor
  case outside => exact fun key hkey => hparts.get?_eq hkey
  case inside =>
    exact fun key hpaths hpath hfields => (hentries.values key).eq_of_ne hpaths hpath hfields
  case paths =>
    rcases hentries.writtenPaths_cases with ⟨b, herror, _⟩ | ⟨_, _, hpaths, hpaths', hall⟩
    · cases s.paths_eq.symm.trans herror
    · cases s.paths_eq.symm.trans hpaths
      cases s'.paths_eq.symm.trans hpaths'
      exact hall
  case fields =>
    have hfields := hentries.values "fields"
    rw [s.fields_eq, s'.fields_eq] at hfields
    exact hfields.places

/-- **Plain shorthands make no difference**: both forms end alike, however they end. -/
theorem SpellsOut.outcome_load_eq (h : SpellsOut Shorthand.IsPlain raw raw')
    (settings : Settings) : (load settings raw).outcome = (load settings raw').outcome := by
  have hfindings := h.findings_eq
  cases hclean : findings raw with
  | error b => rw [load_of_error hclean, load_of_error (hfindings ▸ hclean)]
  | ok texts =>
      cases texts with
      | nil =>
          have hclean' := hfindings ▸ hclean
          obtain ⟨s⟩ := shape_of_findings hclean
          obtain ⟨s'⟩ := shape_of_findings hclean'
          rw [load_of_clean hclean, load_of_clean hclean']
          exact (h.shapes s s').outcome_ofWritten_eq settings
      | cons text texts =>
          rw [load_of_findings hclean, load_of_findings (hfindings ▸ hclean), h.id_eq]

end Shapes

end ReleaseSearch.Definition
