import ReleaseSearch.Proofs.Except
import ReleaseSearch.Proofs.Results.Release

/-!
# What a field feeds

A release is put together from the fields of a row.  `Release.AgreesApartFrom name` says that two
releases differ at most in what the field `name` feeds: a part of its own, title and quality for the
title, and an entry of the further data for a field that a release has no place for.  The main
statement is that rows which differ in one field make releases that differ in no more than that,
and that the further data of a release are the fields without a place, neither more nor less.
-/

namespace ReleaseSearch

open Results Text

/-- An entry of the further data of a release. -/
def Release.detail? (r : Release) (key : String) : Option Detail :=
  ((r.metadata.getD []).find? (·.1 == key)).map (·.2)

/-- Releases that differ at most in what one field feeds. -/
structure Release.AgreesApartFrom (name : String) (r s : Release) : Prop where
  indexer : r.indexer = s.indexer
  title : name ≠ "title" → r.title = s.title
  quality : name ≠ "title" → r.quality = s.quality
  downloadUrl : name ≠ "download" → r.downloadUrl = s.downloadUrl
  infoUrl : name ≠ "details" → r.infoUrl = s.infoUrl
  publishedAt : name ≠ "date" → r.publishedAt = s.publishedAt
  imdbId : name ≠ "imdbid" → r.imdbId = s.imdbId
  tmdbId : name ≠ "tmdbid" → r.tmdbId = s.tmdbId
  size : name ≠ "size" → r.size = s.size
  seeders : name ≠ "seeders" → r.seeders = s.seeders
  leechers : name ≠ "leechers" → r.leechers = s.leechers
  category : name ≠ "category" → r.category = s.category
  detail : ∀ key, key ≠ name ∨ name ∈ Row.mappedNames → r.detail? key = s.detail? key

/-- The further data of a release are the fields of a row that a release has no place for. -/
structure Release.HoldsRestOf (r : Release) (row : Row) : Prop where
  mem_iff : ∀ key value, (key, value) ∈ r.metadata.getD [] ↔
    ∃ line, (key, line) ∈ row ∧ key ∉ Row.mappedNames ∧ value = .ofLine line
  eq_none_iff : r.metadata = none ↔ ∀ entry ∈ row, entry.1 ∈ Row.mappedNames
  distinct : (row.map Prod.fst).Nodup → ((r.metadata.getD []).map Prod.fst).Nodup

namespace Results

namespace Row

variable {row row' : Row} {name : String}

/-! ## The fields without a place -/

theorem mem_extra_iff {entry : String × Line} :
    entry ∈ row.extra ↔ entry ∈ row ∧ entry.1 ∉ mappedNames := by
  simp [extra]

theorem extra_eq_nil_iff : row.extra = [] ↔ ∀ entry ∈ row, entry.1 ∈ mappedNames := by
  simp [extra]

/-- A place for a field hides it from the further data, and all other fields are there. -/
theorem value?_extra (row : Row) (key : String) :
    row.extra.value? key = if key ∈ mappedNames then none else row.value? key := by
  unfold value? extra
  rw [List.find?_filter]
  split
  · next hmapped =>
      rw [Option.map_eq_none_iff, List.find?_eq_none]
      rintro entry _ h
      obtain ⟨hextra, hkey⟩ : entry.1 ∉ mappedNames ∧ entry.1 = key := by simpa using h
      exact hextra (hkey ▸ hmapped)
  · next hextra =>
      congr 2
      funext entry
      by_cases hentry : entry.1 = key
      · subst hentry
        simp [hextra]
      · simp [hentry]

/-! ## The release of a row -/

theorem metadata_release (row : Row) (title link indexer : String) (quality : Option Quality) :
    (row.release title link indexer quality).metadata.getD [] =
      row.extra.map fun entry => (entry.1, Detail.ofLine entry.2) := by
  show Option.getD (if row.extra.isEmpty then none else some _) [] = _
  cases row.extra <;> rfl

theorem detail?_release (row : Row) (title link indexer : String) (quality : Option Quality)
    (key : String) : (row.release title link indexer quality).detail? key =
      if key ∈ mappedNames then none else (row.value? key).map Detail.ofLine := by
  have hvalue := value?_extra row key
  unfold value? at hvalue
  unfold Release.detail? value?
  rw [metadata_release, List.find?_map, Option.map_map]
  show Option.map (Detail.ofLine ∘ Prod.snd) (row.extra.find? (·.1 == key)) = _
  rw [← Option.map_map]
  show Option.map Detail.ofLine (Option.map (·.2) (row.extra.find? (·.1 == key))) = _
  rw [hvalue]
  split <;> rfl

theorem holdsRestOf_release (row : Row) (title link indexer : String) (quality : Option Quality) :
    (row.release title link indexer quality).HoldsRestOf row where
  mem_iff key value := by
    rw [metadata_release, List.mem_map]
    constructor
    · rintro ⟨⟨key, line⟩, hentry, heq⟩
      obtain ⟨rfl, rfl⟩ := Prod.mk.inj heq
      obtain ⟨hrow, hextra⟩ := mem_extra_iff.mp hentry
      exact ⟨line, hrow, hextra, rfl⟩
    · rintro ⟨line, hrow, hextra, rfl⟩
      exact ⟨(key, line), mem_extra_iff.mpr ⟨hrow, hextra⟩, rfl⟩
  eq_none_iff := by
    rw [← extra_eq_nil_iff]
    show (if row.extra.isEmpty then none else some _) = none ↔ _
    cases row.extra <;> simp
  distinct hrow := by
    rw [metadata_release, List.map_map]
    exact ((List.filter_sublist (l := row)).map Prod.fst).nodup hrow

/-- Rows that agree but for one field make releases that agree but for what it feeds.  The
quality is that of the title, so it may differ only where the titles may. -/
theorem agreesApartFrom_release {title title' link link' : String}
    {quality quality' : Option Quality} (indexer : String)
    (hsame : ∀ key, key ≠ name → row.value? key = row'.value? key)
    (htitle : name ≠ "title" → title = title') (hquality : name ≠ "title" → quality = quality')
    (hlink : name ≠ "download" → link = link') :
    (row.release title link indexer quality).AgreesApartFrom name
      (row'.release title' link' indexer quality') where
  indexer := rfl
  title := htitle
  quality := hquality
  downloadUrl := hlink
  -- each of these parts is read from one field, and that is not the one that differs
  infoUrl h := by
    show row.filled? "details" = row'.filled? "details"
    unfold filled?
    rw [hsame _ h.symm]
  publishedAt h := by
    show (readLineDate ((row.value? "date").getD "")).value = _
    rw [hsame _ h.symm]
    rfl
  imdbId h := by
    show row.filled? "imdbid" = row'.filled? "imdbid"
    unfold filled?
    rw [hsame _ h.symm]
  tmdbId h := by
    show (optionalInteger row "tmdbid").value = (optionalInteger row' "tmdbid").value
    unfold optionalInteger
    rw [hsame _ h.symm]
  size h := by
    show (readLineSize ((row.value? "size").getD "")).value = _
    rw [hsame _ h.symm]
    rfl
  seeders h := by
    show (integerOrZero row "seeders").value = (integerOrZero row' "seeders").value
    unfold integerOrZero
    rw [hsame _ h.symm]
  leechers h := by
    show (integerOrZero row "leechers").value = (integerOrZero row' "leechers").value
    unfold integerOrZero
    rw [hsame _ h.symm]
  category h := by
    show (optionalInteger row "category").value = (optionalInteger row' "category").value
    unfold optionalInteger
    rw [hsame _ h.symm]
  detail key h := by
    rw [detail?_release, detail?_release]
    split
    -- a field with a place of its own is no detail of either release
    · rfl
    · next hkey =>
        have hne : key ≠ name := h.elim id fun hmapped heq => hkey (heq ▸ hmapped)
        rw [hsame key hne]

end Row

/-! ## Making the release -/

/-- What makes a release has a title and a link, both of them texts, and the extractor answers on
the title. -/
theorem exists_of_toRelease {row : Row} {indexer : String} {extract : Quality.Extractor}
    {r : Release} (h : (toRelease row indexer extract).outcome = .ok (some r)) :
    ∃ (title link : String) (quality : Option Quality), row.filled? "title" = some ↑title ∧
      row.filled? "download" = some ↑link ∧ (extract title).outcome = .ok quality ∧
      r = row.release title link indexer quality := by
  cases hcomplete : row.isComplete with
  | false =>
      rw [toRelease_of_incomplete hcomplete] at h
      cases h
  | true =>
      obtain ⟨⟨title, htitle⟩, link, hlink⟩ := Row.isComplete_iff.mp hcomplete
      rw [outcome_toRelease_of_filled htitle hlink] at h
      obtain ⟨quality, hquality, h⟩ := bind_eq_ok_iff.mp h
      obtain ⟨texts, htexts, hr⟩ := map_eq_ok_iff.mp h
      obtain ⟨s, s', rfl, rfl⟩ : ∃ s s' : String, title = s ∧ link = s' := by
        by_contra hbroken
        obtain ⟨problems, hproblems⟩ := exists_of_textsOf hbroken
        rw [hproblems] at htexts
        cases htexts
      cases htexts
      exact ⟨s, s', quality, htitle, hlink, hquality, (Option.some.inj hr).symm⟩

/-- The extractor answers on the title of a row. -/
def Row.AnsweredBy (row : Row) (extract : Quality.Extractor) : Prop :=
  ∀ title ∈ row.value? "title", ∃ quality, (extract title).outcome = .ok quality

theorem exists_release {row : Row} {extract : Quality.Extractor} (hcomplete : row.isComplete = true)
    (hrefused : row.isRefused = false) (hanswer : row.AnsweredBy extract) (indexer : String) :
    ∃ r, (toRelease row indexer extract).outcome = .ok (some r) := by
  obtain ⟨⟨title, htitle⟩, link, hlink⟩ := Row.isComplete_iff.mp hcomplete
  obtain ⟨quality, hquality⟩ := hanswer title (Row.filled?_eq_some_iff.mp htitle).1
  obtain ⟨s, s', rfl, rfl⟩ := Row.exists_texts hrefused htitle hlink
  refine ⟨row.release s s' indexer quality, ?_⟩
  rw [outcome_toRelease_of_filled htitle hlink, hquality]
  rfl

/-- **A field feeds its own part of a release and nothing else.**  Let two rows have a title and a
link, and differ in no field but `name`.

* Each of them makes a release if its title and its link are texts, and the extractor answers on its
  title.
* The releases that they make differ at most in what `name` feeds.
* The further data of a release are the fields of its row that a release has no place for, with
  their values as they are; there are no further data exactly if there is no such field. -/
theorem toRelease_apart {row row' : Row} {name : String} (hcomplete : row.isComplete = true)
    (hcomplete' : row'.isComplete = true)
    (hsame : ∀ key, key ≠ name → row.value? key = row'.value? key) (indexer : String)
    (extract : Quality.Extractor) :
    (row.isRefused = false → row.AnsweredBy extract →
      ∃ r, (toRelease row indexer extract).outcome = .ok (some r)) ∧
    (row'.isRefused = false → row'.AnsweredBy extract →
      ∃ r', (toRelease row' indexer extract).outcome = .ok (some r')) ∧
    (∀ r r', (toRelease row indexer extract).outcome = .ok (some r) →
      (toRelease row' indexer extract).outcome = .ok (some r') →
      r.AgreesApartFrom name r' ∧ r.HoldsRestOf row ∧ r'.HoldsRestOf row') := by
  refine ⟨fun hrefused h => exists_release hcomplete hrefused h indexer,
    fun hrefused h => exists_release hcomplete' hrefused h indexer, ?_⟩
  intro r r' hr hr'
  -- Both rows have made a release, so both have a title, a link and an answer on the title.
  obtain ⟨title, link, quality, htitle, hlink, hquality, rfl⟩ := exists_of_toRelease hr
  obtain ⟨title', link', quality', htitle', hlink', hquality', rfl⟩ := exists_of_toRelease hr'
  have hfilled : ∀ key, key ≠ name → row.filled? key = row'.filled? key := by
    intro key hkey
    unfold Row.filled?
    rw [hsame key hkey]
  have hsameTitle : name ≠ "title" → title = title' := by
    intro hname
    rw [hfilled _ hname.symm, htitle'] at htitle
    exact (Line.whole.inj (Option.some.inj htitle)).symm
  refine ⟨Row.agreesApartFrom_release indexer hsame hsameTitle ?_ ?_,
    Row.holdsRestOf_release _ _ _ _ _, Row.holdsRestOf_release _ _ _ _ _⟩
  -- an extractor answers the same on the same title
  · intro hname
    rw [hsameTitle hname, hquality'] at hquality
    exact (Except.ok.inj hquality).symm
  · intro hname
    rw [hfilled _ hname.symm, hlink'] at hlink
    exact (Line.whole.inj (Option.some.inj hlink)).symm

/-- A row with a place for each of its fields but the last. -/
def sampleRow : Row := [("title", "A"), ("download", "m"), ("seeders", "5"), ("uploader", "x")]

/-- The same row without its last field. -/
def shorterRow : Row := [("title", "A"), ("download", "m"), ("seeders", "5")]

/-- What the sample loses with its last field are its further data, and nothing else. -/
theorem toRelease_apart_sample :
    (∀ key, key ≠ "uploader" → sampleRow.value? key = shorterRow.value? key) ∧
      ∃ r r', (toRelease sampleRow "i" Quality.standard).outcome = .ok (some r) ∧
        (toRelease shorterRow "i" Quality.standard).outcome = .ok (some r') ∧
        r.AgreesApartFrom "uploader" r' ∧ r.metadata ≠ none ∧ r'.metadata = none := by
  have hsame : ∀ key, key ≠ "uploader" → sampleRow.value? key = shorterRow.value? key := by
    intro key hkey
    have hlast : ("uploader" == key) = false := beq_eq_false_iff_ne.mpr hkey.symm
    simp only [sampleRow, shorterRow, Row.value?, List.find?_cons, List.find?_nil, hlast]
  have hanswer : ∀ row : Row, row.AnsweredBy Quality.standard :=
    fun row title _ => ⟨_, Quality.standard_answers title⟩
  have hcomplete : sampleRow.isComplete = true := by decide
  have hcomplete' : shorterRow.isComplete = true := by decide
  obtain ⟨hr, hr', happart⟩ := toRelease_apart hcomplete hcomplete' hsame "i" Quality.standard
  obtain ⟨r, hr⟩ := hr (by decide) (hanswer _)
  obtain ⟨r', hr'⟩ := hr' (by decide) (hanswer _)
  obtain ⟨hagrees, hholds, hholds'⟩ := happart r r' hr hr'
  refine ⟨hsame, r, r', hr, hr', hagrees, ?_, ?_⟩
  · rw [ne_eq, hholds.eq_none_iff]
    decide
  · rw [hholds'.eq_none_iff]
    decide

end Results

end ReleaseSearch
