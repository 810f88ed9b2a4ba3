import ReleaseSearch.Proofs.Results.Guard
import ReleaseSearch.Proofs.Results.Release

/-!
# The releases of data

An answer in a data format is a list of rows, or a single one.  `Definition.dataRelease?` says what
one row makes, by itself.  The main statement is that reading an answer is nothing more than that
for each row:

    (ofData d body name extract).outcome = .ok ((rowsOf found).filterMap (d.dataRelease? …))

so no row is lost, repeated or moved, none has a say in what another one makes, and none can end
the reading.  Data hold nothing but texts, so no row is refused either.
-/

namespace ReleaseSearch

open Results Schema Text

namespace Results

/-- What the key of a field shows in a row of data. -/
def shownIn (es : Entries) (field : FieldSelector) : Option Line :=
  ((Data.find? field.selector es).bind plainValue?).map .whole

theorem whole_of_shownIn {es : Entries} {field : FieldSelector} {line : Line}
    (h : shownIn es field = some line) : ∃ s : String, line = s := by
  obtain ⟨s, _, rfl⟩ := Option.map_eq_some_iff.mp h
  exact ⟨s, rfl⟩

/-- An answer is data, and the path to the rows leads to a value in it. -/
def LeadsTo (body : Body) (rowsAt : RowSelector) (found : Data) : Prop :=
  ∃ data, readData body = .ok data ∧ Path.navigate data rowsAt.selector = .ok found

end Results

section

variable [Pattern.Library]

/-- The row of fields that a row of data makes, if it is a map and nothing required is missing. -/
def Results.keptRow? (fields : List (String × FieldSelector)) : Data → Option Row
  | .map es => (Row.ofShown (shownIn es) fields).keep?
  | _ => none

/-- The release that a row of data makes. -/
def Definition.dataRelease? (d : Definition) (indexer : String)
    (quality : Line → Option Quality) : Data → Option Release
  | .map es => (Row.ofShown (shownIn es) d.fieldSelectors).release? indexer quality
  | _ => none

namespace Results

/-! ## Reading the rows -/

/-- **Reading the rows of data always ends in rows**: those that are kept, in their order. -/
theorem outcome_dataRows {fields : List (String × FieldSelector)}
    (hsoft : ∀ field ∈ fields, field.2.IsSoft) (rows : List Data) :
    (dataRows fields rows).outcome = .ok (rows.filterMap (keptRow? fields)) := by
  induction rows with
  | nil => rfl
  | cons row rest ih =>
      -- Only a map is read; every other row leaves an entry and is passed over.
      cases row with
      | map es =>
          have hread : (readRow (dataValue es) fields).outcome =
              .ok (Row.ofShown (shownIn es) fields) := outcome_readRow (fun _ _ => rfl)
                fun field hfield => (hsoft field hfield).failsSoftly
          unfold dataRows
          rw [Run.outcome_bind_of_ok hread, Run.outcome_bind_of_ok ih, List.filterMap_cons]
          unfold keptRow? Row.keep?
          by_cases hcomplete : (Row.ofShown (shownIn es) fields).isComplete = true
          · simp only [if_pos hcomplete]
            rfl
          · simp only [if_neg hcomplete]
            rfl
      | _ =>
          unfold dataRows
          rw [Run.outcome_bind_of_ok (Run.outcome_note _ _ _), ih]
          rfl

theorem keptRow?_bind_release? (d : Definition) (indexer : String)
    (quality : Line → Option Quality) (row : Data) :
    (keptRow? d.fieldSelectors row).bind (·.release? indexer quality) =
      d.dataRelease? indexer quality row := by
  cases row with
  | map es => exact Row.keep?_bind_release? _ indexer quality
  | _ => rfl

/-- The values of data are texts, and so is what the filters make of them. -/
theorem whole_of_value? {es : Entries} {fields : List (String × FieldSelector)} {name : String}
    {line : Line} (h : (Row.ofShown (shownIn es) fields).value? name = some line) :
    ∃ s : String, line = s := by
  obtain ⟨entry, hfind, rfl⟩ := Option.map_eq_some_iff.mp h
  exact Row.whole_of_mem_ofShown (fun _ _ => whole_of_shownIn) (List.mem_of_find?_eq_some hfind)

theorem isRefused_of_keptRow? {fields : List (String × FieldSelector)} {data : Data} {row : Row}
    (h : keptRow? fields data = some row) : row.isRefused = false := by
  cases data with
  | map es =>
      obtain rfl := Row.eq_of_keep? h
      by_contra hrefused
      obtain ⟨title, link, htitle, hlink, hbroken⟩ :=
        Row.isRefused_iff.mp (Bool.not_eq_false _ ▸ hrefused)
      obtain ⟨s, rfl⟩ := whole_of_value? (Row.filled?_eq_some_iff.mp htitle).1
      obtain ⟨s', rfl⟩ := whole_of_value? (Row.filled?_eq_some_iff.mp hlink).1
      exact hbroken ⟨s, s', rfl, rfl⟩
  | _ => cases h

variable {d : Definition} {rowsAt : RowSelector} {extract : Quality.Extractor}
  {quality : Line → Option Quality}

theorem outcome_dataReleases (hsoft : d.IsSoft) (hextract : Quality.Answers extract quality)
    (indexer : String) (found : Data) :
    (dataReleases d indexer found extract).outcome =
      .ok ((rowsOf found).filterMap (d.dataRelease? indexer quality)) := by
  have hrow : (fun row => (keptRow? d.fieldSelectors row).bind (·.release? indexer quality)) =
      d.dataRelease? indexer quality := funext (keptRow?_bind_release? d indexer quality)
  have hkept : ∀ row ∈ (rowsOf found).filterMap (keptRow? d.fieldSelectors),
      row.isRefused = false := by
    intro row hrow
    obtain ⟨data, _, hdata⟩ := List.mem_filterMap.mp hrow
    exact isRefused_of_keptRow? hdata
  unfold dataReleases
  rw [Run.outcome_bind_of_ok (outcome_dataRows hsoft (rowsOf found)),
    Run.outcome_bind_of_ok (outcome_noteKept _ _ _ _), outcome_toReleases hextract indexer hkept,
    List.filterMap_filterMap, hrow]

/-- The release of a row of data, in full: there is one exactly if the row is a map that shows a
title and a link, and then it is the release of the row's own fields. -/
theorem dataRelease?_eq_some_iff {indexer : String} {row : Data} {r : Release} :
    d.dataRelease? indexer quality row = some r ↔
      ∃ es, ∃ title link : String, row = .map es ∧
        (Row.ofShown (shownIn es) d.fieldSelectors).value? "title" = some ↑title ∧ title ≠ "" ∧
        (Row.ofShown (shownIn es) d.fieldSelectors).value? "download" = some ↑link ∧ link ≠ "" ∧
        r = (Row.ofShown (shownIn es) d.fieldSelectors).release title link indexer
          (quality title) := by
  constructor
  · intro h
    cases row with
    | map es =>
        obtain ⟨title, link, hrest⟩ := Row.release?_eq_some_iff.mp h
        exact ⟨es, title, link, rfl, hrest⟩
    | _ => cases h
  · rintro ⟨es, title, link, rfl, hrest⟩
    exact Row.release?_eq_some_iff.mpr ⟨title, link, hrest⟩

/-- The release of a row of data is whole. -/
theorem isWhole_release {es : Entries} {fields : List (String × FieldSelector)}
    (title link indexer : String) (q : Option Quality) :
    ((Row.ofShown (shownIn es) fields).release title link indexer q).IsWhole where
  infoUrl line h := whole_of_value? (Row.filled?_eq_some_iff.mp h).1
  imdbId line h := whole_of_value? (Row.filled?_eq_some_iff.mp h).1
  metadata entries h entry hentry := by
    obtain ⟨_, heq⟩ := Option.ite_none_left_eq_some.mp h
    obtain rfl := Option.some.inj heq
    obtain ⟨e, he, rfl⟩ := List.mem_map.mp hentry
    obtain ⟨s, hs⟩ : ∃ s : String, e.2 = s :=
      Row.whole_of_mem_ofShown (fun _ _ => whole_of_shownIn) (List.mem_of_mem_filter he)
    refine ⟨.text s, ?_⟩
    rw [hs]
    rfl

/-! ## Reading the answer -/

theorem outcome_ofData {body : Body} {found : Data} (hrows : d.rowSelector = some rowsAt)
    (hsoft : d.IsSoft) (hextract : Quality.Answers extract quality) (name : Option String)
    (hfound : LeadsTo body rowsAt found) :
    (ofData d body name extract).outcome =
      .ok ((rowsOf found).filterMap (d.dataRelease? (tagName d name) quality)) := by
  obtain ⟨data, hdata, hpath⟩ := hfound
  unfold ofData
  rw [rowSelector_eq_ok hrows]
  rw [Run.outcome_bind_of_ok rfl, hdata, Run.outcome_bind_of_ok rfl, hpath,
    Run.outcome_bind_of_ok rfl]
  exact outcome_guarded_of_ok (outcome_dataReleases hsoft hextract (tagName d name) found)

/-- **The releases of data are those of its rows**, read one by one.

* An answer whose path leads to a value ends in the releases of the rows that the value stands for,
  in their order, whatever the rows hold.
* A row makes a release exactly if it is a map in which the fields `title` and `download` have
  values that are not empty; the release is that of the row's own fields.  All values of a row are
  texts.
* The schema of releases refuses none of them.
* The rows `xs ++ ys` make the releases of `xs` and then those of `ys`. -/
theorem ofData_rowwise (hrows : d.rowSelector = some rowsAt) (hsoft : d.IsSoft)
    (hextract : Quality.Answers extract quality) (name : Option String) :
    (∀ body found, LeadsTo body rowsAt found →
      (ofData d body name extract).outcome =
        .ok ((rowsOf found).filterMap (d.dataRelease? (tagName d name) quality))) ∧
    (∀ row r, d.dataRelease? (tagName d name) quality row = some r ↔
      ∃ es, ∃ title link : String, row = .map es ∧
        (Row.ofShown (shownIn es) d.fieldSelectors).value? "title" = some ↑title ∧ title ≠ "" ∧
        (Row.ofShown (shownIn es) d.fieldSelectors).value? "download" = some ↑link ∧ link ≠ "" ∧
        r = (Row.ofShown (shownIn es) d.fieldSelectors).release title link (tagName d name)
          (quality title)) ∧
    (∀ es name line, (Row.ofShown (shownIn es) d.fieldSelectors).value? name = some line →
      ∃ s : String, line = s) ∧
    (∀ row r, d.dataRelease? (tagName d name) quality row = some r →
      record Release.read r.toData = .fits r) ∧
    (∀ body body₁ body₂ xs ys, LeadsTo body rowsAt (.list (xs ++ ys)) →
      LeadsTo body₁ rowsAt (.list xs) → LeadsTo body₂ rowsAt (.list ys) →
      ∃ rs₁ rs₂, (ofData d body₁ name extract).outcome = .ok rs₁ ∧
        (ofData d body₂ name extract).outcome = .ok rs₂ ∧
        (ofData d body name extract).outcome = .ok (rs₁ ++ rs₂)) := by
  -- All parts but the last are about a single row.
  have hbody : ∀ body found, LeadsTo body rowsAt found →
      (ofData d body name extract).outcome =
        .ok ((rowsOf found).filterMap (d.dataRelease? (tagName d name) quality)) :=
    fun body found hfound => outcome_ofData hrows hsoft hextract name hfound
  refine ⟨hbody, fun row r => dataRelease?_eq_some_iff, fun es name line => whole_of_value?, ?_, ?_⟩
  · intro row r h
    obtain ⟨es, title, link, _, _, htitle, _, hlink, rfl⟩ := dataRelease?_eq_some_iff.mp h
    exact Release.read_toData htitle hlink (isWhole_release title link _ _)
  · intro body body₁ body₂ xs ys h h₁ h₂
    refine ⟨_, _, hbody body₁ _ h₁, hbody body₂ _ h₂, ?_⟩
    rw [hbody body _ h]
    show Except.ok ((xs ++ ys).filterMap _) = _
    -- the rows of both answers are those of the one answer, in the same order
    rw [List.filterMap_append]
    rfl

end Results

end

namespace Results

/-! ## An answer -/

open Pattern.Bare

/-- A definition that trims titles, and that cleans sizes with a pattern that cannot be read. -/
def sampleIndex : Definition where
  id := "sample"
  rowSelector := some { selector := "$" }
  fieldSelectors :=
    [("title", { selector := "t", filters := [.trim none] }),
      ("download", { selector := "u" }),
      ("size", { selector := "s", filters := [.substitute "(" ""] })]

theorem sampleIndex_isSoft : sampleIndex.IsSoft := by
  have hopen : (match Pattern.Program.read "(".toList with
      | .error .malformed => true
      | _ => false) = true := by decide +kernel
  have hbad : (Filter.substitute "(" "").IsSoft := by
    apply Filter.isSoft_substitute
    intro fault hfault
    rw [hfault] at hopen
    cases fault <;> first | rfl | cases hopen
  have htrim : (Filter.trim none).IsSoft := Filter.isSoft_of_ok fun value => ⟨_, rfl⟩
  intro field hfield filter hfilter
  simp only [sampleIndex, List.mem_cons, List.not_mem_nil, or_false] at hfield
  rcases hfield with rfl | rfl | rfl
  · rw [List.mem_singleton.mp hfilter]
    exact htrim
  · cases hfilter
  · rw [List.mem_singleton.mp hfilter]
    exact hbad

/-- An answer with a whole row, a row that is a number, and a row whose title is only a blank. -/
def sampleAnswer : Body :=
  .text ("[\x7b\"t\": \" A\", \"u\": \"m\", \"s\": \"1 GB\"\x7d, 3, "
    ++ "\x7b\"t\": \" \", \"u\": \"m\"\x7d]")

def sampleRows : List Data :=
  [.map [(.text "t", .text " A"), (.text "u", .text "m"), (.text "s", .text "1 GB")], .int 3,
    .map [(.text "t", .text " "), (.text "u", .text "m")]]

/-- The texts and the number in a value of the form of the sample. -/
def sampleParts? : Except Trouble Data → Option (List String × Int)
  | .ok (.list [.map [(.text a, .text b), (.text c, .text d), (.text e, .text f)], .int n,
      .map [(.text g, .text h), (.text i, .text j)]]) => some ([a, b, c, d, e, f, g, h, i, j], n)
  | _ => none

theorem sampleAnswer_leadsTo : LeadsTo sampleAnswer { selector := "$" } (.list sampleRows) := by
  refine ⟨.list sampleRows, ?_, by rfl⟩
  have h : sampleParts? (readData sampleAnswer) =
      some (["t", " A", "u", "m", "s", "1 GB", "t", " ", "u", "m"], 3) := by decide +kernel
  unfold sampleParts? at h
  split at h
  · next heq =>
    rw [heq]
    simp only [Option.some.injEq, Prod.mk.injEq, List.cons.injEq] at h
    obtain ⟨⟨rfl, rfl, rfl, rfl, rfl, rfl, rfl, rfl, rfl, rfl, _⟩, rfl⟩ := h
    rfl
  · cases h

/-- The sample makes one release: its size is lost with the pattern, and the other rows make
none. -/
theorem ofData_rowwise_sample :
    LeadsTo sampleAnswer { selector := "$" } (.list sampleRows) ∧
      (ofData sampleIndex sampleAnswer none Quality.standard).outcome.map
        (·.map fun r => (r.title, r.downloadUrl, r.size)) = .ok [("A", "m", 0)] := by
  refine ⟨sampleAnswer_leadsTo, ?_⟩
  rw [(ofData_rowwise rfl sampleIndex_isSoft Quality.standard_answers none).1 _ _
    sampleAnswer_leadsTo]
  refine congrArg Except.ok ?_
  decide +kernel

end Results

end ReleaseSearch
