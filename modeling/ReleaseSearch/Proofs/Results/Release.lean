import ReleaseSearch.Proofs.Quality.Title
import ReleaseSearch.Proofs.Results.Row
import ReleaseSearch.Proofs.Schema.Check

/-!
# The release of a row

`Row.release` says what is in the release that a row makes, and `Row.release?` when there is one.
Only a title or a link that is no text keeps a row with both from making it (`Row.isRefused`).
Otherwise making it is total once the extractor is: none of the readers of sizes, numbers and dates
can end it (`outcome_toRelease`), and the release that comes of it satisfies its own schema
(`Release.read_toData`), so that the check of the record has nothing else to refuse.
-/

namespace ReleaseSearch

open Results Text

/-- An extractor that always ends in an answer, which `quality` names. -/
def Quality.Answers (extract : Quality.Extractor) (quality : Line → Option Quality) : Prop :=
  ∀ title, (extract title).outcome = .ok (quality title)

theorem Quality.standard_answers : Quality.Answers Quality.standard Quality.ofLine? := by
  intro title
  exact congrArg Except.ok (Quality.value_extract title.softened)

namespace Results

/-- The release of a row whose title and link are known: the values of its other fields, each read
on its own and empty where the row has none. -/
def Row.release (row : Row) (title link indexer : String) (quality : Option Quality) : Release where
  title := title
  indexer := indexer
  size := (readLineSize ((row.value? "size").getD "")).value
  seeders := (integerOrZero row "seeders").value
  leechers := (integerOrZero row "leechers").value
  downloadUrl := link
  infoUrl := row.filled? "details"
  publishedAt := (readLineDate ((row.value? "date").getD "")).value
  category := (optionalInteger row "category").value
  imdbId := row.filled? "imdbid"
  tmdbId := (optionalInteger row "tmdbid").value
  quality := quality
  metadata :=
    if row.extra.isEmpty then none else some (row.extra.map fun e => (e.1, Detail.ofLine e.2))

/-- The release that a row makes: there is one if the row has a title and a link, both of them
texts. -/
def Row.release? (row : Row) (indexer : String) (quality : Line → Option Quality) :
    Option Release :=
  match row.filled? "title", row.filled? "download" with
  | some (.whole title), some (.whole link) =>
    some (row.release title link indexer (quality title))
  | _, _ => none

/-- Whether a row has a title and a link, but not both of them are texts. -/
def Row.isRefused (row : Row) : Bool :=
  match row.filled? "title", row.filled? "download" with
  | some (.whole _), some (.whole _) => false
  | some _, some _ => true
  | _, _ => false

/-! ## When there is a release -/

theorem Row.filled?_eq_some_iff {row : Row} {name : String} {value : Line} :
    row.filled? name = some value ↔ row.value? name = some value ∧ value ≠ "" := by
  simp [Row.filled?, Option.filter_eq_some_iff]

/-- A row makes a release exactly if it has a title and a link, neither of them empty, and both of
them texts. -/
theorem Row.release?_eq_some_iff {row : Row} {indexer : String}
    {quality : Line → Option Quality} {r : Release} :
    row.release? indexer quality = some r ↔
      ∃ title link : String, row.value? "title" = some ↑title ∧ title ≠ "" ∧
        row.value? "download" = some ↑link ∧ link ≠ "" ∧
        r = row.release title link indexer (quality title) := by
  unfold Row.release?
  constructor
  · intro h
    split at h
    · next title link htitle hlink =>
      obtain ⟨ht, hne⟩ := Row.filled?_eq_some_iff.mp htitle
      obtain ⟨hl, hne'⟩ := Row.filled?_eq_some_iff.mp hlink
      exact ⟨title, link, ht, fun h => hne (congrArg Line.whole h), hl,
        fun h => hne' (congrArg Line.whole h), (Option.some.inj h).symm⟩
    · cases h
  · rintro ⟨title, link, ht, hne, hl, hne', rfl⟩
    rw [Row.filled?_eq_some_iff.mpr ⟨ht, fun h => hne (Line.whole.inj h)⟩,
      Row.filled?_eq_some_iff.mpr ⟨hl, fun h => hne' (Line.whole.inj h)⟩]

theorem Row.isComplete_iff {row : Row} : row.isComplete = true ↔
    (∃ title, row.filled? "title" = some title) ∧ ∃ link, row.filled? "download" = some link := by
  simp [isComplete, requiredNames, Option.isSome_iff_exists]

/-- A row is refused if it is complete, and its title or its link is no text. -/
theorem Row.isRefused_iff {row : Row} : row.isRefused = true ↔
    ∃ title link, row.filled? "title" = some title ∧ row.filled? "download" = some link ∧
      ¬ ∃ s s' : String, title = s ∧ link = s' := by
  unfold isRefused
  cases row.filled? "title" with
  | none => simp
  | some title =>
      cases row.filled? "download" with
      | none => cases title <;> simp
      | some link => cases title <;> cases link <;> simp

/-- The title and the link of a row that is not refused are texts. -/
theorem Row.exists_texts {row : Row} {title link : Line} (h : row.isRefused = false)
    (htitle : row.filled? "title" = some title) (hlink : row.filled? "download" = some link) :
    ∃ s s' : String, title = s ∧ link = s' := by
  by_contra hbroken
  rw [Row.isRefused_iff.mpr ⟨title, link, htitle, hlink, hbroken⟩] at h
  cases h

theorem Row.release?_eq_none {row : Row} (h : row.isComplete = false) (indexer : String)
    (quality : Line → Option Quality) : row.release? indexer quality = none := by
  cases hrelease : row.release? indexer quality with
  | none => rfl
  | some r =>
      obtain ⟨title, link, htitle, hne, hlink, hne', _⟩ := Row.release?_eq_some_iff.mp hrelease
      have hcomplete : row.isComplete = true := Row.isComplete_iff.mpr
        ⟨⟨title, Row.filled?_eq_some_iff.mpr ⟨htitle, fun h => hne (Line.whole.inj h)⟩⟩,
          link, Row.filled?_eq_some_iff.mpr ⟨hlink, fun h => hne' (Line.whole.inj h)⟩⟩
      rw [hcomplete] at h
      cases h

def Row.keep? (row : Row) : Option Row := if row.isComplete then some row else none

theorem Row.eq_of_keep? {row kept : Row} (h : row.keep? = some kept) : kept = row := by
  unfold Row.keep? at h
  split at h
  · exact (Option.some.inj h).symm
  · cases h

/-- Dropping the incomplete rows first loses no release. -/
theorem Row.keep?_bind_release? (row : Row) (indexer : String)
    (quality : Line → Option Quality) :
    row.keep?.bind (·.release? indexer quality) = row.release? indexer quality := by
  unfold Row.keep?
  cases hcomplete : row.isComplete with
  | true => rfl
  | false => exact (Row.release?_eq_none hcomplete indexer quality).symm

theorem exists_of_textsOf {title link : Line} (h : ¬ ∃ s s' : String, title = s ∧ link = s') :
    ∃ problems, textsOf title link = .error (.unfit problems) := by
  cases title with
  | whole s =>
      cases link with
      | whole s' => exact absurd ⟨s, s', rfl, rfl⟩ h
      | broken b => exact ⟨_, rfl⟩
  | broken b => cases link <;> exact ⟨_, rfl⟩

theorem toRelease_of_incomplete {row : Row} (h : row.isComplete = false) (indexer : String)
    (extract : Quality.Extractor) : toRelease row indexer extract = pure none := by
  unfold toRelease
  split
  · next title link htitle hlink =>
      rw [Row.isComplete_iff.mpr ⟨⟨title, htitle⟩, link, hlink⟩] at h
      cases h
  · rfl

/-- A row with a title and a link ends as the extractor does on its title, and then as its texts
do. -/
theorem outcome_toRelease_of_filled {row : Row} {title link : Line}
    (htitle : row.filled? "title" = some title) (hlink : row.filled? "download" = some link)
    (indexer : String) (extract : Quality.Extractor) :
    (toRelease row indexer extract).outcome = (extract title).outcome >>= fun quality =>
      (fun texts => some (row.release texts.1 texts.2 indexer quality)) <$> textsOf title link := by
  unfold toRelease
  rw [htitle, hlink]
  show (some <$> releaseOf row title link indexer extract).outcome = _
  rw [Run.outcome_map]
  unfold releaseOf
  simp only [Run.outcome_bind, Run.outcome_lift, Run.outcome_pure, Run.outcome_ofExcept]
  cases (extract title).outcome with
  | error t => rfl
  | ok quality => cases textsOf title link <;> rfl

theorem outcome_toRelease {extract : Quality.Extractor} {quality : Line → Option Quality}
    (hextract : Quality.Answers extract quality) {row : Row} (h : row.isRefused = false)
    (indexer : String) :
    (toRelease row indexer extract).outcome = .ok (row.release? indexer quality) := by
  cases hcomplete : row.isComplete with
  | false =>
      rw [toRelease_of_incomplete hcomplete, Row.release?_eq_none hcomplete]
      rfl
  | true =>
      obtain ⟨⟨title, htitle⟩, link, hlink⟩ := Row.isComplete_iff.mp hcomplete
      obtain ⟨s, s', rfl, rfl⟩ := Row.exists_texts h htitle hlink
      unfold Row.release?
      rw [outcome_toRelease_of_filled htitle hlink, hextract, htitle, hlink]
      rfl

/-- **Making releases ends in releases** where no row is refused: each row makes its own or none,
in their order. -/
theorem outcome_toReleases {extract : Quality.Extractor} {quality : Line → Option Quality}
    (hextract : Quality.Answers extract quality) (indexer : String) {rows : List Row}
    (h : ∀ row ∈ rows, row.isRefused = false) :
    (toReleases indexer extract rows).outcome =
      .ok (rows.filterMap (·.release? indexer quality)) := by
  induction rows with
  | nil => rfl
  | cons row rest ih =>
      have hrow := outcome_toRelease hextract (h row List.mem_cons_self) indexer
      have hrest := ih fun row hmem => h row (List.mem_cons_of_mem _ hmem)
      unfold toReleases
      rw [Run.outcome_bind_of_ok hrow, Run.outcome_bind_of_ok hrest, List.filterMap_cons]
      cases row.release? indexer quality with
      | none => rfl
      | some r => rfl

end Results

/-! ## The schema of releases -/

open Schema

theorem Quality.read_toData (q : Quality) : record Quality.read q.toData = .fits q := by
  show Quality.read _ = .fits q
  unfold Quality.read
  rw [take_fits (a := q.resolution) (by rfl) (nullable_optional (by simp) (by simp)),
    take_fits (a := q.source) (by rfl) (nullable_optional (by simp) (by simp)),
    take_fits (a := q.codec) (by rfl) (nullable_optional (by simp) (by simp)),
    take_fits (a := q.audio) (by rfl) (nullable_optional (by simp) (by simp)),
    take_fits (a := q.hdr) (by rfl) (bool_bool _),
    take_fits (a := q.proper) (by rfl) (bool_bool _),
    take_fits (a := q.repack) (by rfl) (bool_bool _)]
  rfl

namespace Release

/-- A release whose details are all texts or data, so that its record holds them as they are. -/
structure IsWhole (r : Release) : Prop where
  infoUrl : ∀ line ∈ r.infoUrl, ∃ s : String, line = s
  imdbId : ∀ line ∈ r.imdbId, ∃ s : String, line = s
  metadata : ∀ entries ∈ r.metadata, ∀ entry ∈ entries, ∃ d, entry.2 = .data d

theorem line_softened {value : Option Line} (h : ∀ line ∈ value, ∃ s : String, line = s) :
    nullable line (.optional (fun l => .text l.softened) value) = .fits value := by
  refine nullable_optional (by simp) fun l hl => ?_
  obtain ⟨s, rfl⟩ := h l hl
  rfl

theorem details_toData {entries : List (String × Detail)}
    (h : ∀ entry ∈ entries, ∃ d, entry.2 = .data d) :
    details (.object (entries.map fun entry => (entry.1, entry.2.toData))) = .fits entries := by
  unfold details
  rw [freeDictionary_object]
  show Check.fits (List.map _ (List.map _ entries)) = .fits entries
  rw [List.map_map, List.map_congr_left (g := id), List.map_id]
  rintro ⟨name, detail⟩ hentry
  obtain ⟨d, rfl⟩ := h _ hentry
  rfl

/-- **The schema has nothing else to refuse**: the record of a whole release that has a title and a
link reads back as that release. -/
theorem read_toData {r : Release} (htitle : r.title ≠ "") (hlink : r.downloadUrl ≠ "")
    (hwhole : r.IsWhole) : record Release.read r.toData = .fits r := by
  show Release.read _ = .fits r
  unfold Release.read
  rw [need_fits (a := r.title) (by rfl) (filledText_text htitle),
    need_fits (a := r.indexer) (by rfl) (text_text _),
    take_fits (a := r.size) (by rfl) (natural_int _),
    take_fits (a := r.seeders) (by rfl) (natural_int _),
    take_fits (a := r.leechers) (by rfl) (natural_int _),
    need_fits (a := r.downloadUrl) (by rfl) (filledText_text hlink),
    take_fits (a := r.infoUrl) (by rfl) (line_softened hwhole.infoUrl),
    take_fits (a := r.publishedAt) (by rfl) (nullable_optional (by simp) (by simp [moment])),
    take_fits (a := r.category) (by rfl) (nullable_optional (by simp) (by simp)),
    take_fits (a := r.imdbId) (by rfl) (line_softened hwhole.imdbId),
    take_fits (a := r.tmdbId) (by rfl) (nullable_optional (by simp) (by simp)),
    take_fits (a := r.quality) (by rfl)
      (nullable_optional (by simp [Quality.toData, Data.object]) fun q _ => q.read_toData),
    take_fits (a := r.metadata) (by rfl)
      (nullable_optional (by simp [Data.object]) fun entries h =>
        details_toData (hwhole.metadata entries h))]
  rfl

end Release

end ReleaseSearch
