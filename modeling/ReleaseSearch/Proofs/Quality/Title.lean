import ReleaseSearch.Proofs.Quality.Mark
import ReleaseSearch.Proofs.Run
import ReleaseSearch.Quality.Title

/-!
# What titles tell together

The quality that a title tells does not depend on the case of its letters.  Two titles with a
separator between them tell what either of them tells: where both name a label of one table, the
label that comes first in the table counts, whichever of the titles it is in.
-/

namespace ReleaseSearch.Quality

open Text

/-! ## Tables -/

namespace Table

def labels (table : Table) : List String := table.map (·.1)

/-- The label of two that comes first in a table. -/
def earlier (table : Table) (x y : Option String) : Option String :=
  table.labels.find? fun label => x = some label || y = some label

/-- Whether no mark of a table asks for a separator. -/
def isInner (table : Table) : Bool := table.all fun row => row.2.all Mark.isInner

end Table

theorem anyOccurs_separated {c : Char} (hc : IsSeparator c) {marks : List Mark}
    (hmarks : marks.all Mark.isInner = true) (cs ds : List Char) :
    anyOccurs marks (cs ++ c :: ds) = (anyOccurs marks cs || anyOccurs marks ds) := by
  have hmark := List.all_eq_true.mp hmarks
  apply Bool.eq_iff_iff.mpr
  simp only [anyOccurs, Bool.or_eq_true, List.any_eq_true]
  constructor
  · rintro ⟨mark, hmem, hoccurs⟩
    rw [Mark.occursIn_separated hc (hmark mark hmem), Bool.or_eq_true] at hoccurs
    rcases hoccurs with hfirst | hsecond
    · exact .inl ⟨mark, hmem, hfirst⟩
    · exact .inr ⟨mark, hmem, hsecond⟩
  · rintro (⟨mark, hmem, hoccurs⟩ | ⟨mark, hmem, hoccurs⟩)
    · refine ⟨mark, hmem, ?_⟩
      rw [Mark.occursIn_separated hc (hmark mark hmem), hoccurs, Bool.true_or]
    · refine ⟨mark, hmem, ?_⟩
      rw [Mark.occursIn_separated hc (hmark mark hmem), hoccurs, Bool.or_true]

theorem firstLabel?_cons (row : String × List Mark) (table : Table) (title : List Char) :
    firstLabel? (row :: table) title =
      if anyOccurs row.2 title then some row.1 else firstLabel? table title := by
  cases h : anyOccurs row.2 title <;> simp [firstLabel?, h]

theorem mem_labels_of_firstLabel? {table : Table} {title : List Char} {label : String}
    (h : firstLabel? table title = some label) : label ∈ table.labels := by
  obtain ⟨row, hrow, rfl⟩ := Option.map_eq_some_iff.mp h
  exact List.mem_map_of_mem (List.mem_of_find?_eq_some hrow)

/-- The first label for two titles is the earlier one of their labels.  The induction is on the
table: its first row counts if one of the titles has a mark of it, and otherwise is the label of
neither. -/
theorem firstLabel?_separated {c : Char} (hc : IsSeparator c) {table : Table}
    (hinner : table.isInner = true) (hnodup : table.labels.Nodup) (cs ds : List Char) :
    firstLabel? table (cs ++ c :: ds) =
      table.earlier (firstLabel? table cs) (firstLabel? table ds) := by
  induction table with
  | nil => rfl
  | cons row table ih =>
      obtain ⟨hrow, hinner⟩ : row.2.all Mark.isInner = true ∧ Table.isInner table = true := by
        simpa only [Table.isInner, List.all_cons, Bool.and_eq_true] using hinner
      obtain ⟨hlabel, hnodup⟩ := List.nodup_cons.mp hnodup
      have hlater (title : List Char) : firstLabel? table title ≠ some row.1 := fun h =>
        hlabel (mem_labels_of_firstLabel? h)
      -- what the first row does not decide is decided by the rest of the table
      simp only [firstLabel?_cons, anyOccurs_separated hc hrow, ih hinner hnodup, Table.earlier,
        Table.labels, List.map_cons, List.find?_cons]
      cases hfirst : anyOccurs row.2 cs with
      | true => simp
      | false =>
          cases hsecond : anyOccurs row.2 ds with
          | true => simp
          | false => simp [hlater]

/-! ## All that a title tells -/

/-- What two qualities tell together. -/
def together (x y : Quality) : Quality where
  resolution := Table.earlier resolutions x.resolution y.resolution
  source := Table.earlier sources x.source y.source
  codec := Table.earlier codecs x.codec y.codec
  audio := Table.earlier audios x.audio y.audio
  hdr := x.hdr || y.hdr
  proper := x.proper || y.proper
  repack := x.repack || y.repack

/-- What they tell if either tells anything. -/
def together? : Option Quality → Option Quality → Option Quality
  | none, none => none
  | x, y => some (together (x.getD {}) (y.getD {}))

theorem signals_separated {c : Char} (hc : IsSeparator c) (cs ds : List Char) :
    signals (cs ++ c :: ds) = together (signals cs) (signals ds) := by
  have htables : ∀ table ∈ [resolutions, sources, codecs, audios],
      Table.isInner table = true ∧ (Table.labels table).Nodup := by decide +kernel
  have hmarks : ∀ marks ∈ [hdrMarks, properMarks, repackMarks], marks.all Mark.isInner = true := by
    decide +kernel
  have hlabel (table : Table) (h : table ∈ [resolutions, sources, codecs, audios]) :
      firstLabel? table (cs ++ c :: ds) =
        table.earlier (firstLabel? table cs) (firstLabel? table ds) :=
    firstLabel?_separated hc (htables table h).1 (htables table h).2 cs ds
  have hflag (marks : List Mark) (h : marks ∈ [hdrMarks, properMarks, repackMarks]) :
      anyOccurs marks (cs ++ c :: ds) = (anyOccurs marks cs || anyOccurs marks ds) :=
    anyOccurs_separated hc (hmarks marks h) cs ds
  simp [signals, together, hlabel, hflag]

theorem earlier_eq_none_iff (table : Table) (cs ds : List Char) :
    table.earlier (firstLabel? table cs) (firstLabel? table ds) = none ↔
      firstLabel? table cs = none ∧ firstLabel? table ds = none := by
  constructor
  · intro h
    have hall := List.find?_eq_none.mp h
    constructor
    · refine Option.eq_none_iff_forall_ne_some.mpr fun label hlabel => ?_
      exact hall label (mem_labels_of_firstLabel? hlabel) (by simp [hlabel])
    · refine Option.eq_none_iff_forall_ne_some.mpr fun label hlabel => ?_
      exact hall label (mem_labels_of_firstLabel? hlabel) (by simp [hlabel])
  · rintro ⟨hfirst, hsecond⟩
    rw [hfirst, hsecond]
    exact List.find?_eq_none.mpr (by simp)

/-- Two titles tell nothing together only if neither tells anything. -/
theorem together_eq_empty_iff (cs ds : List Char) :
    together (signals cs) (signals ds) = {} ↔ signals cs = {} ∧ signals ds = {} := by
  simp only [together, signals, Quality.mk.injEq, earlier_eq_none_iff, Bool.or_eq_false_iff]
  grind

theorem value_extract (title : String) : (extract title).value = ofTitle? title := by
  unfold extract
  by_cases h : ((ofTitle? title).isNone && title != "") = true
  · simp [h]
  · simp [h]

theorem getD_ofTitle? (title : String) : (ofTitle? title).getD {} = signals title.toList := by
  unfold ofTitle?
  dsimp only
  split
  · next h => exact h.symm
  · rfl

theorem ofTitle?_eq_none_iff (title : String) :
    ofTitle? title = none ↔ signals title.toList = {} := by
  simp [ofTitle?]

theorem together?_eq_none_iff (x y : Option Quality) :
    together? x y = none ↔ x = none ∧ y = none := by
  cases x <;> cases y <;> simp [together?]

theorem together?_eq_some {x y : Option Quality} (h : ¬ (x = none ∧ y = none)) :
    together? x y = some (together (x.getD {}) (y.getD {})) := by
  cases x with
  | some x => rfl
  | none =>
      cases y with
      | some y => rfl
      | none => exact absurd ⟨rfl, rfl⟩ h

/-- **Two titles with a separator between them** tell what they tell together. -/
theorem extract_separated {c : Char} (hc : IsSeparator c) (a b : String) :
    (extract (a ++ String.singleton c ++ b)).value =
        together? (extract a).value (extract b).value ∧
      ((extract (a ++ String.singleton c ++ b)).value = none ↔
        (extract a).value = none ∧ (extract b).value = none) := by
  have htitle : (a ++ String.singleton c ++ b).toList = a.toList ++ c :: b.toList := by
    simp
  have hsignals : signals (a ++ String.singleton c ++ b).toList =
      together (signals a.toList) (signals b.toList) := by
    rw [htitle, signals_separated hc]
  have hnone : ofTitle? (a ++ String.singleton c ++ b) = none ↔
      ofTitle? a = none ∧ ofTitle? b = none := by
    rw [ofTitle?_eq_none_iff, hsignals, together_eq_empty_iff, ofTitle?_eq_none_iff,
      ofTitle?_eq_none_iff]
  simp only [value_extract]
  refine ⟨?_, hnone⟩
  -- a title that tells nothing adds nothing: its quality counts as the empty one
  by_cases h : ofTitle? a = none ∧ ofTitle? b = none
  · rw [hnone.mpr h, (together?_eq_none_iff _ _).mpr h]
  · rw [together?_eq_some h, getD_ofTitle?, getD_ofTitle?, ← hsignals]
    exact if_neg fun hempty => h (hnone.mp ((ofTitle?_eq_none_iff _).mpr hempty))

/-- Words end at the separator, and the later title may have the earlier label. -/
theorem extract_separated_slash :
    IsSeparator '/' ∧
      (extract ("Show 1080p WEB-DL DTS" ++ String.singleton '/' ++ "4K REMUX-PROPER H265")).value =
        some { resolution := some "2160p", source := some "REMUX", codec := some "x265",
               audio := some "DTS", proper := true } := by
  have hc : IsSeparator '/' := ⟨by decide, by decide, by decide⟩
  exact ⟨hc, (extract_separated hc _ _).1.trans (by decide +kernel)⟩

/-- **The case of letters does not matter** for what a title tells. -/
theorem extract_of_sameLetters {a b : String}
    (h : a.toList.map asciiLowerChar = b.toList.map asciiLowerChar) :
    (extract a).value = (extract b).value := by
  have hmark (mark : Mark) : mark.occursIn a.toList = mark.occursIn b.toList :=
    mark.occursIn_of_sameLetters h
  have hsignals : signals a.toList = signals b.toList := by
    simp only [signals, firstLabel?, anyOccurs, hmark]
  simp only [value_extract, ofTitle?, hsignals]

theorem extract_of_sameLetters_loud :
    "Show.4k.Web-dl.hdr10Plus".toList.map asciiLowerChar =
        "SHOW.4K.WEB-DL.HDR10PLUS".toList.map asciiLowerChar ∧
      (extract "Show.4k.Web-dl.hdr10Plus").value = (extract "SHOW.4K.WEB-DL.HDR10PLUS").value := by
  have hletters : "Show.4k.Web-dl.hdr10Plus".toList.map asciiLowerChar =
      "SHOW.4K.WEB-DL.HDR10PLUS".toList.map asciiLowerChar := by decide +kernel
  exact ⟨hletters, extract_of_sameLetters hletters⟩

end ReleaseSearch.Quality
