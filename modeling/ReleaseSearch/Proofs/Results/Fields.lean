import Mathlib.Data.List.Forall2
import Mathlib.Data.List.Nodup
import ReleaseSearch.Proofs.Results.Parts
import ReleaseSearch.Proofs.Results.Trouble

/-!
# Fields do not depend on each other

A row is read field by field, and what one field says depends on its own selector and filters only:

    (readRow find fields).outcome = .ok row → row.value? name = field.valueFrom shown

where `shown` is what the selector of the field shows.  So the order of the fields does not matter,
and a field whose filters fail might as well not be there.  Both are statements on two runs, which
end alike (`Run.EndsAlike`): the relation is carried from the rows that are read to the releases
that are made, and through the guard around them.
-/

namespace ReleaseSearch

open Results Selector Text

/-- A definition no two fields of which have the same name. -/
def Definition.HasDistinctFields (d : Definition) : Prop := (d.fieldSelectors.map Prod.fst).Nodup

def Definition.withFields (d : Definition) (fields : List (String × FieldSelector)) : Definition :=
  { d with fieldSelectors := fields }

/-- Releases that differ at most in the order of their further data. -/
def Release.Agrees (r s : Release) : Prop :=
  ∃ entries, s = { r with metadata := entries } ∧ Option.Rel List.Perm r.metadata entries

namespace Results

/-! ## Rows that are alike -/

/-- Rows with the same fields, which may stand in another order. -/
structure Row.Alike (a b : Row) : Prop where
  perm : a.Perm b
  distinct : (a.map Prod.fst).Nodup

namespace Row

theorem value?_eq_some_iff {row : Row} (hdistinct : (row.map Prod.fst).Nodup)
    {name : String} {value : Line} : row.value? name = some value ↔ (name, value) ∈ row := by
  unfold value?
  constructor
  · intro h
    obtain ⟨entry, hfind, rfl⟩ := Option.map_eq_some_iff.mp h
    obtain rfl : entry.1 = name := by simpa using List.find?_some hfind
    exact List.mem_of_find?_eq_some hfind
  · intro hmem
    obtain ⟨entry, hfind⟩ : ∃ entry, row.find? (·.1 == name) = some entry :=
      Option.isSome_iff_exists.mp (List.find?_isSome.mpr ⟨_, hmem, beq_self_eq_true name⟩)
    have hname : entry.1 = name := by simpa using List.find?_some hfind
    rw [hfind, List.inj_on_of_nodup_map hdistinct (List.mem_of_find?_eq_some hfind) hmem hname]
    rfl

end Row

namespace Row.Alike

variable {a b : Row}

theorem value?_eq (h : a.Alike b) (name : String) : a.value? name = b.value? name := by
  have hdistinct : (b.map Prod.fst).Nodup := (h.perm.map Prod.fst).nodup_iff.mp h.distinct
  ext value
  rw [value?_eq_some_iff h.distinct, value?_eq_some_iff hdistinct, h.perm.mem_iff]

theorem filled?_eq (h : a.Alike b) (name : String) : a.filled? name = b.filled? name := by
  unfold filled?
  rw [h.value?_eq]

theorem isComplete_eq (h : a.Alike b) : a.isComplete = b.isComplete := by
  unfold isComplete
  simp only [h.filled?_eq]

/-- Rows that are alike make releases that agree. -/
theorem agrees_release (h : a.Alike b) (title link indexer : String) (quality : Option Quality) :
    (a.release title link indexer quality).Agrees (b.release title link indexer quality) := by
  refine ⟨(b.release title link indexer quality).metadata, ?_, ?_⟩
  · unfold Row.release optionalInteger integerOrZero
    simp only [h.value?_eq, h.filled?_eq]
  · have hextra : a.extra.Perm b.extra := h.perm.filter _
    show Option.Rel List.Perm (if a.extra.isEmpty then none else some _)
      (if b.extra.isEmpty then none else some _)
    rw [hextra.isEmpty_eq]
    split
    · exact .none
    · exact .some (hextra.map _)

end Row.Alike

/-- Rows that are alike make releases that agree. -/
theorem toRelease_alike {a b : Row} (h : a.Alike b) (indexer : String)
    (extract : Quality.Extractor) :
    Run.EndsAlike (Option.Rel Release.Agrees) (toRelease a indexer extract)
      (toRelease b indexer extract) := by
  cases hcomplete : b.isComplete with
  | false =>
      rw [toRelease_of_incomplete hcomplete,
        toRelease_of_incomplete (h.isComplete_eq.trans hcomplete)]
      exact .ok rfl rfl .none
  | true =>
      obtain ⟨⟨title, htitle⟩, link, hlink⟩ := Row.isComplete_iff.mp hcomplete
      have ha := outcome_toRelease_of_filled ((h.filled?_eq _).trans htitle)
        ((h.filled?_eq _).trans hlink) indexer extract
      have hb := outcome_toRelease_of_filled htitle hlink indexer extract
      -- The extractor and the check of the texts do the same in both.
      cases hquality : (extract title).outcome with
      | error t =>
          rw [hquality] at ha hb
          exact .error ha hb
      | ok quality =>
          rw [hquality] at ha hb
          cases htexts : textsOf title link with
          | error t =>
              rw [htexts] at ha hb
              exact .error ha hb
          | ok texts =>
              rw [htexts] at ha hb
              exact .ok ha hb (.some (h.agrees_release texts.1 texts.2 indexer quality))

/-! ## Runs that end alike -/

/-- Rows that make releases alike do so one after another. -/
theorem toReleases_alike {R : Row → Row → Prop} {S : Release → Release → Prop}
    {extract : Quality.Extractor} {indexer : String}
    (hmake : ∀ a b, R a b →
      Run.EndsAlike (Option.Rel S) (toRelease a indexer extract) (toRelease b indexer extract))
    {rows rows' : List Row} (hrows : List.Forall₂ R rows rows') :
    Run.EndsAlike (List.Forall₂ S) (toReleases indexer extract rows)
      (toReleases indexer extract rows') := by
  induction hrows with
  | nil => exact .ok rfl rfl .nil
  | cons hrow _ ih =>
      refine (hmake _ _ hrow).bind fun r s hrs => ih.bind fun rs ss hrest => ?_
      refine .ok rfl rfl ?_
      cases hrs with
      | none => exact hrest
      | some hrs => exact .cons hrs hrest

/-- The guard looks at how a run ends only. -/
theorem guarded_alike {α β : Type} {T : α → β → Prop} {form : String} {r : Run α} {s : Run β}
    (h : Run.EndsAlike T r s) :
    Run.EndsAlike T (guarded form indexer r) (guarded form indexer s) := by
  cases h with
  | ok hr hs hT => exact .ok (outcome_guarded_of_ok hr) (outcome_guarded_of_ok hs) hT
  | error hr hs =>
      unfold guarded
      refine Run.EndsAlike.bind (.ok (Run.outcome_attempt r) (Run.outcome_attempt s)
        (R := fun a b => ∃ t, a = .error t ∧ b = .error t) ⟨_, hr, hs⟩) ?_
      rintro _ _ ⟨t, rfl, rfl⟩
      cases t <;> exact .error rfl rfl

theorem pageValue_trouble {row : Place} {field : FieldSelector} {t : Trouble}
    (h : (pageValue row field).outcome = .error t) : t = .breakdown (.badValue none) := by
  unfold pageValue at h
  rcases Run.outcome_bind_eq_error_iff.mp h with h | ⟨_, _, h⟩
  · obtain ⟨b, hb, rfl⟩ := mapError_eq_error_iff.mp h
    unfold selected at hb
    split at hb
    · cases hb
      rfl
    · cases hb
  · cases h

theorem LeadsTo.unique {body : Body} {rowsAt : RowSelector} {found found' : Data}
    (h : LeadsTo body rowsAt found) (h' : LeadsTo body rowsAt found') : found = found' := by
  obtain ⟨data, hdata, hpath⟩ := h
  obtain ⟨data', hdata', hpath'⟩ := h'
  obtain rfl := Except.ok.inj (hdata.symm.trans hdata')
  exact Except.ok.inj (hpath.symm.trans hpath')

theorem ShowsRows.unique {body : Body} {rowsAt : RowSelector} {all all' : List Place}
    (h : ShowsRows body rowsAt all) (h' : ShowsRows body rowsAt all') : all = all' := by
  obtain ⟨page, hpage, hall⟩ := h
  obtain ⟨page', hpage', hall'⟩ := h'
  obtain rfl := Except.ok.inj (hpage.symm.trans hpage')
  exact Except.ok.inj (hall.symm.trans hall')

theorem outcome_eq_of_alike {r s : Run (List Release)}
    (h : Run.EndsAlike (List.Forall₂ Eq) r s) : r.outcome = s.outcome := by
  rw [List.forall₂_eq_eq_eq] at h
  exact h.outcome_eq

/-- What the selector of a field shows, and nothing where looking for it goes wrong. -/
def shownBy (find : FieldSelector → Run (Option Line)) (field : FieldSelector) :
    Option Line := (find field).outcome.toOption.join

theorem shownBy_of_ok {find : FieldSelector → Run (Option Line)} {field : FieldSelector}
    {shown : Option Line} (h : (find field).outcome = .ok shown) :
    shownBy find field = shown := by
  unfold shownBy
  rw [h]
  rfl

end Results

section

variable [Pattern.Library]

/-- The filters of a field fail on what it shows, if it shows anything. -/
def FieldSelector.FailsOn (field : FieldSelector) (shown : Option Line) : Prop :=
  ∀ raw ∈ shown, ∃ t, (Filter.applyAll field.filters raw).outcome = .error t

theorem FieldSelector.FailsOn.valueFrom_eq_none {field : FieldSelector} {shown : Option Line}
    (h : field.FailsOn shown) : field.valueFrom shown = none := by
  cases shown with
  | none => rfl
  | some raw =>
      obtain ⟨t, ht⟩ := h raw rfl
      unfold FieldSelector.valueFrom
      rw [Option.bind_some, ht]
      rfl

namespace Results

/-! ## The value of a field -/

namespace Row

variable {shown : FieldSelector → Option Line} {fields fields' : List (String × FieldSelector)}

theorem keys_ofShown_sublist (shown : FieldSelector → Option Line)
    (fields : List (String × FieldSelector)) :
    ((Row.ofShown shown fields).map Prod.fst).Sublist (fields.map Prod.fst) := by
  unfold Row.ofShown
  induction fields with
  | nil => exact List.Sublist.slnil
  | cons field rest ih =>
      rw [List.filterMap_cons]
      cases field.2.valueFrom (shown field.2) with
      | none => exact ih.cons field.1
      | some value => exact ih.cons_cons field.1

/-- A field has the value that its own filters make of what its own selector shows. -/
theorem value?_ofShown (hdistinct : (fields.map Prod.fst).Nodup) {name : String}
    {field : FieldSelector} (hfield : (name, field) ∈ fields) :
    (Row.ofShown shown fields).value? name = field.valueFrom (shown field) := by
  ext value
  rw [value?_eq_some_iff ((keys_ofShown_sublist shown fields).nodup hdistinct)]
  unfold Row.ofShown
  rw [List.mem_filterMap]
  constructor
  · rintro ⟨field', hfield', h⟩
    obtain ⟨value', hvalue, heq⟩ := Option.map_eq_some_iff.mp h
    obtain ⟨hname, rfl⟩ := Prod.mk.inj heq
    obtain rfl := List.inj_on_of_nodup_map hdistinct hfield' hfield hname
    exact hvalue
  · intro hvalue
    refine ⟨(name, field), hfield, ?_⟩
    show (field.valueFrom (shown field)).map (name, ·) = some (name, value)
    rw [hvalue]
    rfl

end Row

variable {find : FieldSelector → Run (Option Line)}
  {fields fields' : List (String × FieldSelector)}

/-- With soft filters, the trouble of a field is that of looking for it. -/
theorem fieldRaises_iff {field : FieldSelector} (hsoft : field.FailsSoftly) {t : Trouble} :
    FieldRaises find field t ↔ (find field).outcome = .error t := by
  refine ⟨fun h => h.resolve_right ?_, .inl⟩
  rintro ⟨raw, _, hchain, hhard⟩
  exact hhard (hsoft raw t hchain)

theorem exists_of_readRow_error (hsoft : ∀ field ∈ fields, field.2.FailsSoftly) {t : Trouble}
    (h : (readRow find fields).outcome = .error t) :
    ∃ field ∈ fields, (find field.2).outcome = .error t := by
  obtain ⟨field, hfield, hraises⟩ := First.exists_mem (readRow_error_iff.mp h)
  exact ⟨field, hfield, (fieldRaises_iff (hsoft field hfield)).mp hraises⟩

/-- Reading a row ends in a row exactly if looking for each field goes well. -/
theorem readRow_ends_iff (hsoft : ∀ field ∈ fields, field.2.FailsSoftly) :
    (∃ row, (readRow find fields).outcome = .ok row) ↔
      ∀ field ∈ fields, ∃ shown, (find field.2).outcome = .ok shown := by
  constructor
  · intro hrow field hfield
    rw [exists_ok_iff]
    intro t ht
    have hraises : FieldRaises find field.2 t := .inl ht
    obtain ⟨t', hfirst⟩ : ∃ t', First (fun field => FieldRaises find field.2) fields t' :=
      First.exists_of_mem ⟨field, hfield, t, hraises⟩
    exact exists_ok_iff.mp hrow t' (readRow_error_iff.mpr hfirst)
  · intro hfind
    refine ⟨Row.ofShown (shownBy find) fields, outcome_readRow ?_ hsoft⟩
    intro field hfield
    obtain ⟨shown, hshown⟩ := hfind field hfield
    rw [hshown, shownBy_of_ok hshown]

/-- The row that is read holds what its fields show. -/
theorem eq_ofShown_of_readRow (hsoft : ∀ field ∈ fields, field.2.FailsSoftly) {row : Row}
    (h : (readRow find fields).outcome = .ok row) : row = Row.ofShown (shownBy find) fields := by
  have hread : (readRow find fields).outcome = .ok (Row.ofShown (shownBy find) fields) := by
    refine outcome_readRow (fun field hfield => ?_) hsoft
    obtain ⟨shown, hshown⟩ := (readRow_ends_iff hsoft).mp ⟨row, h⟩ field hfield
    rw [hshown, shownBy_of_ok hshown]
  rw [hread] at h
  exact (Except.ok.inj h).symm

/-- **The order of the fields does not matter** to what is read. -/
theorem readRow_perm (hperm : fields.Perm fields') (hdistinct : (fields.map Prod.fst).Nodup)
    (hsoft : ∀ field ∈ fields, field.2.FailsSoftly) {u : Trouble}
    (hfind : ∀ field ∈ fields, ∀ t, (find field.2).outcome = .error t → t = u) :
    Run.EndsAlike Row.Alike (readRow find fields) (readRow find fields') := by
  have hsoft' : ∀ field ∈ fields', field.2.FailsSoftly :=
    fun field hfield => hsoft field (hperm.mem_iff.mpr hfield)
  cases hrow : (readRow find fields).outcome with
  | ok row =>
      have hall := (readRow_ends_iff hsoft).mp ⟨row, hrow⟩
      obtain ⟨row', hrow'⟩ : ∃ row', (readRow find fields').outcome = .ok row' :=
        (readRow_ends_iff hsoft').mpr fun field hfield => hall field (hperm.mem_iff.mpr hfield)
      obtain rfl := eq_ofShown_of_readRow hsoft hrow
      obtain rfl := eq_ofShown_of_readRow hsoft' hrow'
      exact .ok hrow hrow' ⟨hperm.filterMap _, (Row.keys_ofShown_sublist _ _).nodup hdistinct⟩
  | error t =>
      -- Which field raises first depends on the order, but all of them raise the same trouble.
      obtain ⟨field, hfield, ht⟩ := exists_of_readRow_error hsoft hrow
      cases hrow' : (readRow find fields').outcome with
      | ok row' =>
          have hall := (readRow_ends_iff hsoft').mp ⟨row', hrow'⟩
          obtain ⟨shown, hshown⟩ := hall field (hperm.mem_iff.mp hfield)
          rw [ht] at hshown
          cases hshown
      | error t' =>
          obtain ⟨field', hfield', ht'⟩ := exists_of_readRow_error hsoft' hrow'
          obtain rfl := hfind field hfield t ht
          obtain rfl := hfind field' (hperm.mem_iff.mpr hfield') t' ht'
          exact .error hrow hrow'

/-- A field that has no value might as well not be there. -/
theorem outcome_readRow_of_failsOn {name : String} {field : FieldSelector} {shown : Option Line}
    (hshown : (find field).outcome = .ok shown) (hsoft : field.FailsSoftly)
    (hfails : field.FailsOn shown) (before after : List (String × FieldSelector)) :
    (readRow find (before ++ (name, field) :: after)).outcome =
      (readRow find (before ++ after)).outcome := by
  induction before with
  | nil =>
      have hvalue : (fieldValue find name field).outcome = .ok none := by
        rw [outcome_fieldValue hshown hsoft, hfails.valueFrom_eq_none]
      show (readRow find ((name, field) :: after)).outcome = (readRow find after).outcome
      conv_lhs => unfold readRow
      rw [Run.outcome_bind_of_ok hvalue]
      show (readRow find after >>= pure).outcome = _
      rw [Run.outcome_bind]
      cases (readRow find after).outcome <;> rfl
  | cons first rest ih =>
      rw [List.cons_append, List.cons_append]
      unfold readRow
      simp only [Run.outcome_bind, ih]

/-! ## From rows to releases

What is known of each row that is read is carried on to the releases.  Here `R` relates the rows
that two runs read, and `S` the releases that they make. -/

section Alike

variable {R : Row → Row → Prop} {S : Release → Release → Prop} {extract : Quality.Extractor}
  {indexer : String}

theorem dataRows_alike (hR : ∀ a b, R a b → a.isComplete = b.isComplete) {rows : List Data}
    (hread : ∀ es, .map es ∈ rows →
      Run.EndsAlike R (readRow (dataValue es) fields) (readRow (dataValue es) fields')) :
    Run.EndsAlike (List.Forall₂ R) (dataRows fields rows) (dataRows fields' rows) := by
  induction rows with
  | nil => exact .ok rfl rfl .nil
  | cons row rest ih =>
      have hrest := ih fun es hes => hread es (List.mem_cons_of_mem _ hes)
      cases row with
      | map es =>
          refine (hread es List.mem_cons_self).bind fun a b hab => hrest.bind fun as bs habs => ?_
          rw [hR a b hab]
          split
          · exact .ok rfl rfl (.cons hab habs)
          · exact .ok rfl rfl habs
      | _ => exact (Run.EndsAlike.refl (R := Eq) (fun _ => rfl) _).bind fun _ _ _ => hrest

theorem pageRows_alike (hR : ∀ a b, R a b → a.isComplete = b.isComplete) {rows : List Place}
    (hread : ∀ row ∈ rows,
      Run.EndsAlike R (readRow (pageValue row) fields) (readRow (pageValue row) fields')) :
    Run.EndsAlike (List.Forall₂ R) (pageRows fields rows) (pageRows fields' rows) := by
  induction rows with
  | nil => exact .ok rfl rfl .nil
  | cons row rest ih =>
      have hrest := ih fun row hrow => hread row (List.mem_cons_of_mem _ hrow)
      refine (hread row List.mem_cons_self).bind fun a b hab => ?_
      rw [hR a b hab]
      have hlast (isComplete : Bool) : Run.EndsAlike (List.Forall₂ R)
          (do let others ← pageRows fields rest
              return if isComplete then a :: others else others)
          (do let others ← pageRows fields' rest
              return if isComplete then b :: others else others) := by
        refine hrest.bind fun as bs habs => ?_
        split
        · exact .ok rfl rfl (.cons hab habs)
        · exact .ok rfl rfl habs
      -- An incomplete row leaves an entry, which has no say in how the run ends.
      cases b.isComplete with
      | true => exact hlast true
      | false => exact .bind (.ok (R := fun _ _ => True) rfl rfl trivial) fun _ _ _ => hlast false

variable {d : Definition}

/-- Two definitions that differ in their fields read data alike if they read the rows alike. -/
theorem ofData_alike (hR : ∀ a b, R a b → a.isComplete = b.isComplete)
    (hmake : ∀ a b indexer, R a b →
      Run.EndsAlike (Option.Rel S) (toRelease a indexer extract) (toRelease b indexer extract))
    {body : Body} (hread : ∀ rowsAt found, d.rowSelector = some rowsAt →
      LeadsTo body rowsAt found → ∀ es, .map es ∈ rowsOf found →
      Run.EndsAlike R (readRow (dataValue es) d.fieldSelectors) (readRow (dataValue es) fields))
    (name : Option String) :
    Run.EndsAlike (List.Forall₂ S) (ofData d body name extract)
      (ofData (d.withFields fields) body name extract) := by
  refine .bind_self fun rowsAt hrowsAt => .bind_self fun data hdata => ?_
  refine .bind_self fun found hfound => guarded_alike ?_
  have hrows := hread rowsAt found (rowSelector_eq_some (mapError_eq_ok_iff.mp hrowsAt))
    ⟨data, hdata, mapError_eq_ok_iff.mp hfound⟩
  refine (dataRows_alike hR hrows).bind fun rows rows' hrows => ?_
  exact .bind (.ok (R := fun _ _ => True) rfl rfl trivial) fun _ _ _ =>
    toReleases_alike (fun a b => hmake a b _) hrows

/-- The same for pages. -/
theorem ofPage_alike (hR : ∀ a b, R a b → a.isComplete = b.isComplete)
    (hmake : ∀ a b indexer, R a b →
      Run.EndsAlike (Option.Rel S) (toRelease a indexer extract) (toRelease b indexer extract))
    {body : Body} (hread : ∀ rowsAt all, d.rowSelector = some rowsAt →
      ShowsRows body rowsAt all → ∀ row ∈ all.drop rowsAt.skipCount,
      Run.EndsAlike R (readRow (pageValue row) d.fieldSelectors) (readRow (pageValue row) fields))
    (name : Option String) :
    Run.EndsAlike (List.Forall₂ S) (ofPage d body name extract)
      (ofPage (d.withFields fields) body name extract) := by
  refine .bind_self fun rowsAt hrowsAt => guarded_alike ?_
  refine .bind_self fun page hpage => .bind_self fun all hall => ?_
  have hrows := hread rowsAt all (rowSelector_eq_some (mapError_eq_ok_iff.mp hrowsAt))
    ⟨page, mapError_eq_ok_iff.mp hpage, mapError_eq_ok_iff.mp hall⟩
  refine (pageRows_alike hR hrows).bind fun rows rows' hrows => ?_
  exact .bind (.ok (R := fun _ _ => True) rfl rfl trivial) fun _ _ _ =>
    toReleases_alike (fun a b => hmake a b _) hrows

end Alike

/-! ## Whole answers -/

variable {d : Definition}

/-- **Fields do not depend on each other.**  Let no two fields of a definition have the same name,
and let their filters fail by nothing but a pattern.

* A row is read exactly if looking for each field goes well, and a field then has the value that its
  own filters make of what its own selector shows.
* In another order the fields make the same releases of every answer, data or page, or they end in
  the same trouble.
* A field whose filters fail on a row might as well not be there: the row is read without it, and
  makes the same release or none.
* If they fail on every row of an answer, all of its releases are those that are made without the
  field. -/
theorem fields_independent (hdistinct : d.HasDistinctFields)
    (hsoft : ∀ field ∈ d.fieldSelectors, field.2.FailsSoftly) (extract : Quality.Extractor) :
    (∀ find, ((∃ row, (readRow find d.fieldSelectors).outcome = .ok row) ↔
        ∀ field ∈ d.fieldSelectors, ∃ shown, (find field.2).outcome = .ok shown) ∧
      ∀ row, (readRow find d.fieldSelectors).outcome = .ok row →
        ∀ name field, (name, field) ∈ d.fieldSelectors →
          ∃ shown, (find field).outcome = .ok shown ∧ row.value? name = field.valueFrom shown) ∧
    (∀ fields, d.fieldSelectors.Perm fields → ∀ body name,
      Run.EndsAlike (List.Forall₂ Release.Agrees) (ofData d body name extract)
        (ofData (d.withFields fields) body name extract) ∧
      Run.EndsAlike (List.Forall₂ Release.Agrees) (ofPage d body name extract)
        (ofPage (d.withFields fields) body name extract)) ∧
    (∀ before name field after, d.fieldSelectors = before ++ (name, field) :: after →
      (∀ find shown, (find field).outcome = .ok shown → field.FailsOn shown →
        (readRow find d.fieldSelectors).outcome = (readRow find (before ++ after)).outcome ∧
        ∀ indexer, (readRow find d.fieldSelectors >>= (toRelease · indexer extract)).outcome =
          (readRow find (before ++ after) >>= (toRelease · indexer extract)).outcome) ∧
      (∀ rowsAt body found, d.rowSelector = some rowsAt → LeadsTo body rowsAt found →
        (∀ es, .map es ∈ rowsOf found → field.FailsOn (shownIn es field)) →
        ∀ indexer, (ofData d body indexer extract).outcome =
          (ofData (d.withFields (before ++ after)) body indexer extract).outcome) ∧
      (∀ rowsAt body all, d.rowSelector = some rowsAt → ShowsRows body rowsAt all →
        (Choices.read field.selector).isSome →
        (∀ row ∈ all.drop rowsAt.skipCount, field.FailsOn (shownAt row field)) →
        ∀ indexer, (ofPage d body indexer extract).outcome =
          (ofPage (d.withFields (before ++ after)) body indexer extract).outcome)) := by
  refine ⟨fun find => ⟨readRow_ends_iff hsoft, ?_⟩, fun fields hperm body name => ⟨?_, ?_⟩, ?_⟩
  · intro row hrow name field hfield
    obtain ⟨shown, hshown⟩ := (readRow_ends_iff hsoft).mp ⟨row, hrow⟩ _ hfield
    refine ⟨shown, hshown, ?_⟩
    rw [eq_ofShown_of_readRow hsoft hrow, Row.value?_ofShown hdistinct hfield,
      shownBy_of_ok hshown]
  · refine ofData_alike (fun _ _ => Row.Alike.isComplete_eq)
      (fun _ _ indexer h => toRelease_alike h indexer extract) ?_ name
    intro _ _ _ _ es _
    -- Looking into data never goes wrong.
    exact readRow_perm hperm hdistinct hsoft (u := .breakdown .badKind) fun _ _ _ h => by cases h
  · refine ofPage_alike (fun _ _ => Row.Alike.isComplete_eq)
      (fun _ _ indexer h => toRelease_alike h indexer extract) ?_ name
    intro _ _ _ _ row _
    exact readRow_perm hperm hdistinct hsoft fun _ _ _ => pageValue_trouble
  · intro before name field after hsplit
    have hfield : field.FailsSoftly := hsoft (name, field) (by rw [hsplit]; simp)
    have hread : ∀ find shown, (find field).outcome = .ok shown → field.FailsOn shown →
        (readRow find d.fieldSelectors).outcome = (readRow find (before ++ after)).outcome := by
      intro find shown hshown hfails
      rw [hsplit]
      exact outcome_readRow_of_failsOn hshown hfield hfails before after
    have hmake : ∀ a b indexer, a = b →
        Run.EndsAlike (Option.Rel Eq) (toRelease a indexer extract)
          (toRelease b indexer extract) := by
      rintro a _ indexer rfl
      refine Run.EndsAlike.refl (fun r => ?_) _
      cases r with
      | none => exact .none
      | some r => exact .some rfl
    refine ⟨?_, ?_, ?_⟩
    · intro find shown hshown hfails
      refine ⟨hread find shown hshown hfails, fun indexer => ?_⟩
      rw [Run.outcome_bind, Run.outcome_bind, hread find shown hshown hfails]
    · intro rowsAt body found hrowsAt hfound hfails indexer
      refine outcome_eq_of_alike (ofData_alike (fun _ _ => congrArg _) hmake ?_ indexer)
      intro rowsAt' found' hrowsAt' hfound' es hes
      obtain rfl := Option.some.inj (hrowsAt.symm.trans hrowsAt')
      obtain rfl := hfound.unique hfound'
      exact .of_outcome_eq (hread (dataValue es) _ rfl (hfails es hes))
    · intro rowsAt body all hrowsAt hall hselector hfails indexer
      refine outcome_eq_of_alike (ofPage_alike (fun _ _ => congrArg _) hmake ?_ indexer)
      intro rowsAt' all' hrowsAt' hall' row hrow
      obtain rfl := Option.some.inj (hrowsAt.symm.trans hrowsAt')
      obtain rfl := hall.unique hall'
      exact .of_outcome_eq (hread (pageValue row) _ (outcome_pageValue hselector) (hfails row hrow))

end Results

end

namespace Results

open Pattern.Bare

/-- The pattern of the sample fails on every line. -/
theorem openPattern_failsOn (shown : Option Line) :
    FieldSelector.FailsOn { selector := "s", filters := [.substitute "(" ""] } shown := by
  have hread : Pattern.Program.read "(".toList = .error .malformed := by
    have hopen : (match Pattern.Program.read "(".toList with
        | .error .malformed => true
        | _ => false) = true := by decide +kernel
    split at hopen
    · next h => exact h
    · cases hopen
  intro raw _
  refine ⟨.failure (.invalidPattern "(" hiddenText), ?_⟩
  rw [Filter.applyAll_cons]
  apply Run.outcome_bind_of_error
  rw [Filter.outcome_substitute, Filter.ruleOf_of_fault hread]
  rfl

/-- The sample reads the same in another order of its fields, and without the one that fails. -/
theorem fields_independent_sample :
    sampleIndex.HasDistinctFields ∧
      Run.EndsAlike (List.Forall₂ Release.Agrees)
        (ofData sampleIndex sampleAnswer none Quality.standard)
        (ofData (sampleIndex.withFields sampleIndex.fieldSelectors.reverse) sampleAnswer none
          Quality.standard) ∧
      (ofData sampleIndex sampleAnswer none Quality.standard).outcome =
        (ofData (sampleIndex.withFields (sampleIndex.fieldSelectors.take 2)) sampleAnswer none
          Quality.standard).outcome := by
  have hdistinct : sampleIndex.HasDistinctFields := by
    unfold Definition.HasDistinctFields sampleIndex
    decide
  obtain ⟨_, horder, hfails⟩ := fields_independent hdistinct
    (fun field hfield => (sampleIndex_isSoft field hfield).failsSoftly) Quality.standard
  refine ⟨hdistinct, ?_, ?_⟩
  · exact (horder _ (List.reverse_perm _).symm sampleAnswer none).1
  · obtain ⟨_, hdata, _⟩ := hfails (sampleIndex.fieldSelectors.take 2) "size" _ [] rfl
    exact hdata _ _ _ rfl sampleAnswer_leadsTo (fun es _ => openPattern_failsOn _) none

end Results

end ReleaseSearch
