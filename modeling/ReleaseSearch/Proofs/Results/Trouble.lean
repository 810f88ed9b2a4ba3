import ReleaseSearch.Proofs.Filter.Chain

/-!
# Where reading an answer goes wrong

`Results.Raises` lists the places at which reading an answer can raise a trouble: the row selector,
the content, the path or the selector of the rows, the fields of a row, and the extractor.  The main
statement is that nothing else can, and that what is raised there is not lost on the way:

    (unguarded d body indexer extract).outcome = .error t ↔ Raises d body extract t

A pattern that cannot be used raises nothing here: it only drops the field.
-/

namespace ReleaseSearch.Results

open Selector Text

variable {α β γ : Type}

/-! ## The first trouble of a list -/

/-- The trouble of the first item that raises one. -/
inductive First (raises : β → Trouble → Prop) : List β → Trouble → Prop
  | here {b : β} {rest : List β} {t : Trouble} (h : raises b t) : First raises (b :: rest) t
  | later {b : β} {rest : List β} {t : Trouble} (hb : ∀ t', ¬ raises b t')
      (h : First raises rest t) : First raises (b :: rest) t

theorem First.cons_iff {raises : β → Trouble → Prop} {b : β} {rest : List β} {t : Trouble} :
    First raises (b :: rest) t ↔ raises b t ∨ (∀ t', ¬ raises b t') ∧ First raises rest t := by
  constructor
  · intro h
    cases h with
    | here h => exact .inl h
    | later hb h => exact .inr ⟨hb, h⟩
  · rintro (h | ⟨hb, h⟩)
    · exact .here h
    · exact .later hb h

theorem First.exists_mem {β : Type} {raises : β → Trouble → Prop} {bs : List β} {t : Trouble}
    (h : First raises bs t) : ∃ b ∈ bs, raises b t := by
  induction h with
  | here h => exact ⟨_, List.mem_cons_self, h⟩
  | later _ _ ih =>
      obtain ⟨b, hb, hraises⟩ := ih
      exact ⟨b, List.mem_cons_of_mem _ hb, hraises⟩

/-- If some item raises a trouble, there is a first one. -/
theorem First.exists_of_mem {raises : β → Trouble → Prop} {bs : List β}
    (h : ∃ b ∈ bs, ∃ t, raises b t) : ∃ t, First raises bs t := by
  induction bs with
  | nil =>
      obtain ⟨b, hb, _⟩ := h
      cases hb
  | cons b rest ih =>
      by_cases hb : ∃ t, raises b t
      · obtain ⟨t, ht⟩ := hb
        exact ⟨t, .here ht⟩
      · rw [not_exists] at hb
        obtain ⟨b', hmem, t, ht⟩ := h
        rcases List.mem_cons.mp hmem with rfl | hrest
        · exact absurd ht (hb t)
        · obtain ⟨t', hfirst⟩ := ih ⟨b', hrest, t, ht⟩
          exact ⟨t', .later hb hfirst⟩

/-- A computation that ends in no trouble ends in a value. -/
theorem exists_ok_iff {r : Except Trouble γ} : (∃ c, r = .ok c) ↔ ∀ t, r ≠ .error t := by
  cases r with
  | ok c => simp
  | error t => simp

/-- Running the items of a list one after another ends in the first trouble of an item. -/
theorem error_iff_first {raises : β → Trouble → Prop} (step : β → Run γ) {all : List β → Run α}
    (hstep : ∀ b t, (step b).outcome = .error t ↔ raises b t)
    (hnil : ∀ t, (all []).outcome ≠ .error t)
    (hcons : ∀ b rest t, (all (b :: rest)).outcome = .error t ↔
      (step b).outcome = .error t ∨ (∃ c, (step b).outcome = .ok c) ∧ (all rest).outcome = .error t)
    {bs : List β} {t : Trouble} : (all bs).outcome = .error t ↔ First raises bs t := by
  induction bs with
  | nil => exact ⟨fun h => absurd h (hnil t), fun h => by cases h⟩
  | cons b rest ih =>
      have hgoes : (∃ c, (step b).outcome = .ok c) ↔ ∀ t', ¬ raises b t' := by
        rw [exists_ok_iff]
        exact forall_congr' fun t' => not_congr (hstep b t')
      rw [hcons, hstep, hgoes, ih, First.cons_iff]

/-! ## Fields -/

theorem pageValue_error {row : Place} {field : FieldSelector} {t : Trouble}
    (h : (pageValue row field).outcome = .error t) : ∃ b, t = .breakdown b := by
  unfold pageValue at h
  rcases Run.outcome_bind_eq_error_iff.mp h with h | ⟨_, _, h⟩
  · obtain ⟨b, _, rfl⟩ := mapError_eq_error_iff.mp h
    exact ⟨b, rfl⟩
  · cases h

section Fields

variable [Pattern.Library]

/-- The trouble of a field: looking for it goes wrong, or a filter does other than softly. -/
def FieldRaises (find : FieldSelector → Run (Option Line)) (field : FieldSelector)
    (t : Trouble) : Prop :=
  (find field).outcome = .error t ∨
    ∃ raw, (find field).outcome = .ok (some raw) ∧
      (Filter.applyAll field.filters raw).outcome = .error t ∧ ¬ t.IsSoft

theorem filteredValue_error_iff {name : String} {raw : Line} {field : FieldSelector} {t : Trouble} :
    (filteredValue name field raw).outcome = .error t ↔
      (Filter.applyAll field.filters raw).outcome = .error t ∧ ¬ t.IsSoft := by
  constructor
  · intro h
    cases hchain : (Filter.applyAll field.filters raw).outcome with
    | ok value =>
        unfold filteredValue at h
        rw [Run.outcome_bind_of_ok (Run.outcome_attempt _), hchain] at h
        cases h
    | error t' =>
        by_cases hsoft : t'.IsSoft
        · rw [outcome_filteredValue_of_soft hchain hsoft] at h
          cases h
        · rw [outcome_filteredValue_of_error hchain hsoft] at h
          cases h
          exact ⟨rfl, hsoft⟩
  · rintro ⟨h, hhard⟩
    exact outcome_filteredValue_of_error h hhard

theorem fieldValue_error_iff {find : FieldSelector → Run (Option Line)} {name : String}
    {field : FieldSelector} {t : Trouble} :
    (fieldValue find name field).outcome = .error t ↔ FieldRaises find field t := by
  unfold fieldValue FieldRaises
  rw [Run.outcome_bind_eq_error_iff]
  refine or_congr_right ?_
  constructor
  · rintro ⟨shown, hshown, h⟩
    cases shown with
    | none => cases h
    | some raw => exact ⟨raw, hshown, filteredValue_error_iff.mp h⟩
  · rintro ⟨raw, hshown, h⟩
    exact ⟨some raw, hshown, filteredValue_error_iff.mpr h⟩

/-- The trouble of a row: that of its first field that raises one. -/
def RowRaises (find : FieldSelector → Run (Option Line))
    (fields : List (String × FieldSelector)) : Trouble → Prop :=
  First (fun field => FieldRaises find field.2) fields

theorem readRow_error_iff {find : FieldSelector → Run (Option Line)}
    {fields : List (String × FieldSelector)} {t : Trouble} :
    (readRow find fields).outcome = .error t ↔ RowRaises find fields t := by
  refine error_iff_first (fun field : String × FieldSelector => fieldValue find field.1 field.2)
    (fun _ _ => fieldValue_error_iff) (fun t h => by cases h) ?_
  intro field rest t
  refine Run.outcome_then_error_iff fun value => ?_
  cases value <;> simp [Run.outcome_bind_eq_error_iff, -Run.outcome_bind]

/-- What a field raises is a breakdown, if looking for it is. -/
theorem RowRaises.exists_breakdown {find : FieldSelector → Run (Option Line)}
    {fields : List (String × FieldSelector)} {t : Trouble} (h : RowRaises find fields t)
    (hfind : ∀ field t, (find field).outcome = .error t → ∃ b, t = .breakdown b) :
    ∃ b, t = .breakdown b := by
  obtain ⟨field, _, hraises⟩ := First.exists_mem h
  rcases hraises with hshown | ⟨raw, _, hchain, hhard⟩
  · exact hfind field.2 t hshown
  · exact (Filter.trouble_of_applyAll hchain).resolve_left hhard

/-! ## Rows -/

/-- The trouble of a row of data; only a map is looked into. -/
def DataRowRaises (fields : List (String × FieldSelector)) : Data → Trouble → Prop
  | .map es, t => RowRaises (dataValue es) fields t
  | _, _ => False

/-- Reads a row of data; only a map has anything to read. -/
def readDataRow (fields : List (String × FieldSelector)) : Data → Run Row
  | .map es => readRow (dataValue es) fields
  | _ => pure []

theorem dataRows_error_iff {fields : List (String × FieldSelector)} {rows : List Data}
    {t : Trouble} :
    (dataRows fields rows).outcome = .error t ↔ First (DataRowRaises fields) rows t := by
  refine error_iff_first (readDataRow fields) ?_ (fun t h => by cases h) ?_
  · intro row t
    cases row with
    | map es => exact readRow_error_iff
    | _ => simp [readDataRow, DataRowRaises]
  · intro row rest t
    cases row with
    | map es =>
        refine Run.outcome_then_error_iff fun row => ?_
        simp [Run.outcome_bind_eq_error_iff, -Run.outcome_bind]
    | _ => simp [readDataRow, dataRows]

/-- The trouble of a row of a page. -/
def PageRowRaises (fields : List (String × FieldSelector)) (row : Place) : Trouble → Prop :=
  RowRaises (pageValue row) fields

theorem pageRows_error_iff {fields : List (String × FieldSelector)} {rows : List Place}
    {t : Trouble} :
    (pageRows fields rows).outcome = .error t ↔ First (PageRowRaises fields) rows t := by
  refine error_iff_first (fun row => readRow (pageValue row) fields) (fun _ _ => readRow_error_iff)
    (fun t h => by cases h) ?_
  intro place rest t
  refine Run.outcome_then_error_iff fun row => ?_
  -- A row that is passed over leaves an entry, which raises nothing.
  cases row.isComplete <;> simp [Run.outcome_bind_eq_error_iff, -Run.outcome_bind]

end Fields

/-! ## Releases -/

/-- The trouble of making a release: the extractor cannot work on the title, or it can, but the
title or the link is no text. -/
def ReleaseRaises (extract : Quality.Extractor) (row : Row) (t : Trouble) : Prop :=
  ∃ title link, row.filled? "title" = some title ∧ row.filled? "download" = some link ∧
    ((extract title).outcome = .error t ∨
      (∃ quality, (extract title).outcome = .ok quality) ∧ textsOf title link = .error t)

theorem toRelease_error_iff {row : Row} {indexer : String} {extract : Quality.Extractor}
    {t : Trouble} :
    (toRelease row indexer extract).outcome = .error t ↔ ReleaseRaises extract row t := by
  cases hcomplete : row.isComplete with
  | false =>
      rw [toRelease_of_incomplete hcomplete]
      constructor
      · intro h
        cases h
      · rintro ⟨title, link, htitle, hlink, _⟩
        rw [Row.isComplete_iff.mpr ⟨⟨title, htitle⟩, link, hlink⟩] at hcomplete
        cases hcomplete
  | true =>
      obtain ⟨⟨title, htitle⟩, link, hlink⟩ := Row.isComplete_iff.mp hcomplete
      have hraises : ReleaseRaises extract row t ↔ (extract title).outcome = .error t ∨
          (∃ quality, (extract title).outcome = .ok quality) ∧ textsOf title link = .error t := by
        simp [ReleaseRaises, htitle, hlink]
      rw [outcome_toRelease_of_filled htitle hlink, hraises]
      cases (extract title).outcome with
      | error t' => simp
      | ok quality => cases textsOf title link <;> simp [Functor.map, Except.map]

/-- What is no text is unfit. -/
theorem unfit_of_textsOf {title link : Line} {t : Trouble} (h : textsOf title link = .error t) :
    ∃ problems, t = .unfit problems := by
  obtain ⟨problems, _, rfl⟩ := mapError_eq_error_iff.mp h
  exact ⟨problems, rfl⟩

theorem toReleases_error_iff {indexer : String} {extract : Quality.Extractor} {rows : List Row}
    {t : Trouble} :
    (toReleases indexer extract rows).outcome = .error t ↔
      First (ReleaseRaises extract) rows t := by
  refine error_iff_first (fun row => toRelease row indexer extract) (fun _ _ => toRelease_error_iff)
    (fun t h => by cases h) ?_
  intro row rest t
  refine Run.outcome_then_error_iff fun release => ?_
  simp [Run.outcome_bind_eq_error_iff, -Run.outcome_bind]

/-! ## Answers -/

theorem navigate_error {value : Data} {path : String} {f : Failure}
    (h : Path.navigate value path = .error f) : f.kind = .pathNotFound ∨ f.kind = .invalidPath := by
  obtain ⟨fault, _, rfl⟩ := mapError_eq_error_iff.mp h
  cases fault with
  | missing key => exact .inl rfl
  | notMap key => exact .inr rfl

variable [Pattern.Library]

/-- The troubles that reading an answer can raise, each at its place.  What comes before the place
has gone well. -/
inductive Raises (d : Definition) (body : Body) (extract : Quality.Extractor) : Trouble → Prop
  | rowSelector {f : Failure} (h : rowSelector d = .error f) : Raises d body extract (.failure f)
  | data {rowsAt : RowSelector} {t : Trouble} (hform : body.form = .data)
      (hrows : d.rowSelector = some rowsAt) (h : readData body = .error t) :
      Raises d body extract t
  | path {rowsAt : RowSelector} {data : Data} {f : Failure} (hform : body.form = .data)
      (hrows : d.rowSelector = some rowsAt) (hdata : readData body = .ok data)
      (h : Path.navigate data rowsAt.selector = .error f) : Raises d body extract (.failure f)
  | dataRow {rowsAt : RowSelector} {found : Data} {t : Trouble} (hform : body.form = .data)
      (hrows : d.rowSelector = some rowsAt) (hfound : LeadsTo body rowsAt found)
      (h : First (DataRowRaises d.fieldSelectors) (rowsOf found) t) : Raises d body extract t
  | dataRelease {rowsAt : RowSelector} {found : Data} {rows : List Row} {t : Trouble}
      (hform : body.form = .data) (hrows : d.rowSelector = some rowsAt)
      (hfound : LeadsTo body rowsAt found)
      (hread : (dataRows d.fieldSelectors (rowsOf found)).outcome = .ok rows)
      (h : First (ReleaseRaises extract) rows t) : Raises d body extract t
  | page {rowsAt : RowSelector} {b : Breakdown} (hform : body.form = .page)
      (hrows : d.rowSelector = some rowsAt) (h : readPage body = .error b) :
      Raises d body extract (.breakdown b)
  | selector {rowsAt : RowSelector} {page : Html.Element} {b : Breakdown}
      (hform : body.form = .page) (hrows : d.rowSelector = some rowsAt)
      (hpage : readPage body = .ok page)
      (h : selected (.top page) rowsAt.selector = .error b) : Raises d body extract (.breakdown b)
  | pageRow {rowsAt : RowSelector} {all : List Place} {t : Trouble} (hform : body.form = .page)
      (hrows : d.rowSelector = some rowsAt) (hall : ShowsRows body rowsAt all)
      (h : First (PageRowRaises d.fieldSelectors) (all.drop rowsAt.skipCount) t) :
      Raises d body extract t
  | pageRelease {rowsAt : RowSelector} {all : List Place} {rows : List Row} {t : Trouble}
      (hform : body.form = .page) (hrows : d.rowSelector = some rowsAt)
      (hall : ShowsRows body rowsAt all)
      (hread : (pageRows d.fieldSelectors (all.drop rowsAt.skipCount)).outcome = .ok rows)
      (h : First (ReleaseRaises extract) rows t) : Raises d body extract t

theorem dataReleases_error_iff {d : Definition} {indexer : String} {found : Data}
    {extract : Quality.Extractor} {t : Trouble} :
    (dataReleases d indexer found extract).outcome = .error t ↔
      First (DataRowRaises d.fieldSelectors) (rowsOf found) t ∨
        ∃ rows, (dataRows d.fieldSelectors (rowsOf found)).outcome = .ok rows ∧
          First (ReleaseRaises extract) rows t := by
  unfold dataReleases
  rw [Run.outcome_bind_eq_error_iff, dataRows_error_iff]
  refine or_congr_right (exists_congr fun rows => and_congr_right fun _ => ?_)
  rw [Run.outcome_bind_of_ok (outcome_noteKept _ _ _ _)]
  exact toReleases_error_iff

theorem pageReleases_error_iff {d : Definition} {rowsAt : RowSelector} {indexer : String}
    {body : Body} {page : Html.Element} {all : List Place} {extract : Quality.Extractor}
    {t : Trouble} (hpage : readPage body = .ok page)
    (hall : selected (.top page) rowsAt.selector = .ok all) :
    (pageReleases d rowsAt indexer body extract).outcome = .error t ↔
      First (PageRowRaises d.fieldSelectors) (all.drop rowsAt.skipCount) t ∨
        ∃ rows, (pageRows d.fieldSelectors (all.drop rowsAt.skipCount)).outcome = .ok rows ∧
          First (ReleaseRaises extract) rows t := by
  unfold pageReleases
  rw [hpage]
  simp only [Run.mapError_ok, Run.ofExcept_ok_bind, hall]
  rw [Run.outcome_bind_eq_error_iff, pageRows_error_iff]
  refine or_congr_right (exists_congr fun rows => and_congr_right fun _ => ?_)
  rw [Run.outcome_bind_of_ok (outcome_noteKept _ _ _ _)]
  exact toReleases_error_iff

/-- Data are read, their rows are looked for, and the releases are made. -/
theorem unguarded_of_data {d : Definition} {body : Body} {rowsAt : RowSelector}
    (hform : body.form = .data) (hrows : d.rowSelector = some rowsAt) (indexer : String)
    (extract : Quality.Extractor) :
    unguarded d body indexer extract = (do
      let data ← Run.ofExcept (readData body)
      let found ← Run.ofExcept ((Path.navigate data rowsAt.selector).mapError .failure)
      dataReleases d indexer found extract) := by
  unfold unguarded
  simp only [rowSelector_eq_ok hrows, Run.mapError_ok, Run.ofExcept_ok_bind, hform]

/-- The releases of a value that the path leads to. -/
theorem unguarded_of_leadsTo {d : Definition} {body : Body} {rowsAt : RowSelector} {found : Data}
    (hform : body.form = .data) (hrows : d.rowSelector = some rowsAt)
    (hfound : LeadsTo body rowsAt found) (indexer : String) (extract : Quality.Extractor) :
    unguarded d body indexer extract = dataReleases d indexer found extract := by
  obtain ⟨data, hdata, hpath⟩ := hfound
  rw [unguarded_of_data hform hrows, hdata, Run.ofExcept_ok_bind, hpath]
  rfl

theorem unguarded_of_page {d : Definition} {body : Body} {rowsAt : RowSelector}
    (hform : body.form = .page) (hrows : d.rowSelector = some rowsAt) (indexer : String)
    (extract : Quality.Extractor) :
    unguarded d body indexer extract = pageReleases d rowsAt indexer body extract := by
  unfold unguarded
  simp only [rowSelector_eq_ok hrows, Run.mapError_ok, Run.ofExcept_ok_bind, hform]

/-- Whatever is raised at one of the places ends the reading. -/
theorem outcome_unguarded_of_raises {d : Definition} {body : Body} {extract : Quality.Extractor}
    {t : Trouble} (h : Raises d body extract t) (indexer : String) :
    (unguarded d body indexer extract).outcome = .error t := by
  -- The cases are in the order in which an answer is read: what comes before the trouble ends well,
  -- and so reading gets there.
  cases h with
  | rowSelector h =>
      unfold unguarded
      rw [h]
      rfl
  | data hform hrows h =>
      rw [unguarded_of_data hform hrows, h]
      rfl
  | path hform hrows hdata h =>
      rw [unguarded_of_data hform hrows, hdata, Run.ofExcept_ok_bind, h]
      rfl
  | dataRow hform hrows hfound h =>
      rw [unguarded_of_leadsTo hform hrows hfound]
      exact dataReleases_error_iff.mpr (.inl h)
  | dataRelease hform hrows hfound hread h =>
      rw [unguarded_of_leadsTo hform hrows hfound]
      exact dataReleases_error_iff.mpr (.inr ⟨_, hread, h⟩)
  | page hform hrows h =>
      rw [unguarded_of_page hform hrows]
      unfold pageReleases
      rw [h]
      rfl
  | selector hform hrows hpage h =>
      rw [unguarded_of_page hform hrows]
      unfold pageReleases
      rw [hpage, Run.mapError_ok, Run.ofExcept_ok_bind, h]
      rfl
  | pageRow hform hrows hall h =>
      obtain ⟨page, hpage, hall⟩ := hall
      rw [unguarded_of_page hform hrows]
      exact (pageReleases_error_iff hpage hall).mpr (.inl h)
  | pageRelease hform hrows hall hread h =>
      obtain ⟨page, hpage, hall⟩ := hall
      rw [unguarded_of_page hform hrows]
      exact (pageReleases_error_iff hpage hall).mpr (.inr ⟨_, hread, h⟩)

/-- What ends the reading of data is raised at a place of data. -/
theorem raises_of_data {d : Definition} {body : Body} {rowsAt : RowSelector} {indexer : String}
    {extract : Quality.Extractor} {t : Trouble} (hform : body.form = .data)
    (hrows : d.rowSelector = some rowsAt)
    (h : (unguarded d body indexer extract).outcome = .error t) : Raises d body extract t := by
  cases hdata : readData body with
  | error t' =>
      rw [unguarded_of_data hform hrows, hdata] at h
      cases h
      exact .data hform hrows hdata
  | ok data =>
      cases hpath : Path.navigate data rowsAt.selector with
      | error f =>
          rw [unguarded_of_data hform hrows, hdata, Run.ofExcept_ok_bind, hpath] at h
          cases h
          exact .path hform hrows hdata hpath
      | ok found =>
          have hfound : LeadsTo body rowsAt found := ⟨data, hdata, hpath⟩
          rw [unguarded_of_leadsTo hform hrows hfound] at h
          rcases dataReleases_error_iff.mp h with hrow | ⟨rows, hread, htitle⟩
          · exact .dataRow hform hrows hfound hrow
          · exact .dataRelease hform hrows hfound hread htitle

/-- What ends the reading of a page is raised at a place of pages. -/
theorem raises_of_page {d : Definition} {body : Body} {rowsAt : RowSelector} {indexer : String}
    {extract : Quality.Extractor} {t : Trouble} (hform : body.form = .page)
    (hrows : d.rowSelector = some rowsAt)
    (h : (unguarded d body indexer extract).outcome = .error t) : Raises d body extract t := by
  rw [unguarded_of_page hform hrows] at h
  cases hpage : readPage body with
  | error b =>
      unfold pageReleases at h
      rw [hpage] at h
      cases h
      exact .page hform hrows hpage
  | ok page =>
      cases hall : selected (.top page) rowsAt.selector with
      | error b =>
          unfold pageReleases at h
          rw [hpage, Run.mapError_ok, Run.ofExcept_ok_bind, hall] at h
          cases h
          exact .selector hform hrows hpage hall
      | ok all =>
          rcases (pageReleases_error_iff hpage hall).mp h with hrow | ⟨rows, hread, htitle⟩
          · exact .pageRow hform hrows ⟨page, hpage, hall⟩ hrow
          · exact .pageRelease hform hrows ⟨page, hpage, hall⟩ hread htitle

/-- **Reading goes wrong at these places and no others.** -/
theorem unguarded_error_iff {d : Definition} {body : Body} {indexer : String}
    {extract : Quality.Extractor} {t : Trouble} :
    (unguarded d body indexer extract).outcome = .error t ↔ Raises d body extract t := by
  refine ⟨fun h => ?_, fun h => outcome_unguarded_of_raises h indexer⟩
  cases hrows : d.rowSelector with
  | none =>
      have hnone := rowSelector_eq_error hrows
      unfold unguarded at h
      rw [hnone] at h
      cases h
      exact .rowSelector hnone
  | some rowsAt =>
      cases hform : body.form with
      | data => exact raises_of_data hform hrows h
      | page => exact raises_of_page hform hrows h

/-- What is raised while an answer is read ends the reading, as it is or as the failure that it
becomes. -/
theorem outcome_ofBody_of_raises {d : Definition} {body : Body} {extract : Quality.Extractor}
    {t : Trouble} (h : Raises d body extract t) (name : Option String) :
    (ofBody d body name extract).outcome = .error t ∨
      ∃ f, (ofBody d body name extract).outcome = .error (.failure f) ∧ t.Becomes f := by
  have hends := outcome_unguarded_of_raises h (tagName d name)
  rcases outcome_ofBody d body name extract with hsame | ⟨t', f, hends', hguarded, hbecomes⟩
  · exact .inl (hsame.trans hends)
  · rw [hends] at hends'
    cases hends'
    exact .inr ⟨f, hguarded, hbecomes⟩

/-- Reading that does not end in releases was ended by something that is raised. -/
theorem exists_raises_of_ofBody {d : Definition} {body : Body} {name : Option String}
    {extract : Quality.Extractor} {t : Trouble}
    (h : (ofBody d body name extract).outcome = .error t) : ∃ t', Raises d body extract t' := by
  rcases outcome_ofBody d body name extract with hsame | ⟨t', f, hends, _, _⟩
  · exact ⟨t, unguarded_error_iff.mp (hsame.symm.trans h)⟩
  · exact ⟨t', unguarded_error_iff.mp hends⟩

end ReleaseSearch.Results
