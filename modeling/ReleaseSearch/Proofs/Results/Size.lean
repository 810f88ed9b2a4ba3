import Mathlib.Data.List.Find
import ReleaseSearch.Proofs.Results.Integer
import ReleaseSearch.Proofs.Text.Blank
import ReleaseSearch.Proofs.Text.Substring
import ReleaseSearch.Proofs.Text.Word

/-!
# Sizes among other characters

A size is a number and the label of a unit.  Texts around it that show neither digits nor a label
leave the unit alone, as no label comes about where they meet it (`contains_between`).  Of their
characters only the points count.  Points after the number are passed over; before it, they take its
place, and the size is read as zero.
-/

namespace ReleaseSearch.Results

open Text Decimal

/-! ## Labels -/

def IsLabel (label : String) : Prop := ∃ unit ∈ sizeUnits, label ∈ unit.labels

theorem IsLabel.all {P : String → Prop} (h : ∀ unit ∈ sizeUnits, ∀ label ∈ unit.labels, P label)
    {label : String} (hlabel : IsLabel label) : P label := by
  obtain ⟨unit, hunit, hmem⟩ := hlabel
  exact h unit hunit label hmem

theorem IsLabel.toList_eq {label : String} (h : IsLabel label) :
    label.toList = label.toList.dropLast ++ ['B'] ∧ 'B' ∉ label.toList.dropLast :=
  h.all (P := fun label => label.toList = label.toList.dropLast ++ ['B'] ∧
    'B' ∉ label.toList.dropLast) (by decide)

theorem IsLabel.mem_toList {label : String} (h : IsLabel label) : 'B' ∈ label.toList := by
  rw [h.toList_eq.1]
  exact List.mem_append_right _ (List.mem_singleton_self _)

theorem IsLabel.letters {label : String} (h : IsLabel label) {c : Char} (hc : c ∈ label.toList) :
    isDigit c = false ∧ c ≠ '.' ∧ isBlank c = false := by
  have hall := h.all (P := fun label => label.toList.all fun c =>
    !isDigit c && c != '.' && !isBlank c) (by decide)
  simpa [and_assoc] using List.all_eq_true.mp hall c hc

/-- No label is a part of another one. -/
theorem IsLabel.eq_of_infix {label other : String} (h : IsLabel label) (h' : IsLabel other)
    (hpart : label.toList <:+: other.toList) : label = other := by
  have hall : ∀ unit ∈ sizeUnits, ∀ label ∈ unit.labels, ∀ unit' ∈ sizeUnits,
      ∀ other ∈ unit'.labels, contains label other = true → label = other := by decide
  obtain ⟨unit, hunit, hmem⟩ := h
  obtain ⟨unit', hunit', hmem'⟩ := h'
  exact hall unit hunit label hmem unit' hunit' other hmem' (occursIn_iff.mpr hpart)

/-- Each label belongs to one unit only. -/
theorem find?_label {unit : SizeUnit} (hunit : unit ∈ sizeUnits) {label : String}
    (hlabel : label ∈ unit.labels) : sizeUnits.find? (·.labels.contains label) = some unit := by
  simp only [sizeUnits, List.mem_cons, List.not_mem_nil, or_false] at hunit
  rcases hunit with rfl | rfl | rfl | rfl
  all_goals
    simp only [List.mem_cons, List.not_mem_nil, or_false] at hlabel
    rcases hlabel with rfl | rfl <;> rfl

/-- Where a label meets what follows it, no other label comes about. -/
theorem IsLabel.infix_append_iff {label other : String} {rest : List Char} (h : IsLabel label)
    (h' : IsLabel other) :
    label.toList <:+: other.toList ++ rest ↔ label = other ∨ label.toList <:+: rest := by
  constructor
  · intro hpart
    rcases List.infix_append_iff.mp hpart with hother | hrest | ⟨front, back, hsplit, hfront, hback⟩
    · exact .inl (h.eq_of_infix h' hother)
    · exact .inr hrest
    · by_cases hnil : back = []
      · rw [hnil, List.append_nil] at hsplit
        exact .inl (h.eq_of_infix h' (hsplit ▸ hfront.isInfix))
      · -- what is before the border ends as the other label does, in `B`, and no label goes on
        -- there
        rw [h'.toList_eq.1] at hfront
        rcases List.suffix_concat_iff.mp hfront with rfl | ⟨start, rfl, -⟩
        · exact .inr (hsplit ▸ hback.isInfix)
        · refine absurd ?_ h.toList_eq.2
          rw [hsplit, List.dropLast_append_of_ne_nil hnil]
          simp
  · rintro (rfl | hrest)
    · exact (List.prefix_append _ rest).isInfix
    · exact hrest.trans (List.suffix_append _ rest).isInfix

/-! ## Numbers -/

/-- Digits of any scripts, or such digits before and after a point. -/
inductive IsDecimal : List Char → Prop
  | whole {digits : List Char} (hne : digits ≠ []) (h : ∀ c ∈ digits, isDigit c = true) :
      IsDecimal digits
  | pointed {digits fraction : List Char} (hne : digits ≠ []) (h : ∀ c ∈ digits, isDigit c = true)
      (hne' : fraction ≠ []) (h' : ∀ c ∈ fraction, isDigit c = true) :
      IsDecimal (digits ++ '.' :: fraction)

/-- A number begins with a digit, and there are only digits and points in it. -/
theorem IsDecimal.exists_eq {number : List Char} (h : IsDecimal number) :
    ∃ c rest, number = c :: rest ∧ isDigit c = true ∧
      ∀ d ∈ rest, (isDigit d || d == '.') = true := by
  cases h with
  | whole hne h =>
      obtain ⟨c, rest, rfl⟩ := List.exists_cons_of_ne_nil hne
      obtain ⟨hc, hrest⟩ := List.forall_mem_cons.mp h
      exact ⟨c, rest, rfl, hc, fun d hd => by simp [hrest d hd]⟩
  | @pointed digits fraction hne h hne' h' =>
      obtain ⟨c, rest, rfl⟩ := List.exists_cons_of_ne_nil hne
      obtain ⟨hc, hrest⟩ := List.forall_mem_cons.mp h
      refine ⟨c, rest ++ '.' :: fraction, rfl, hc, fun d hd => ?_⟩
      rcases List.mem_append.mp hd with hd | hd
      · simp [hrest d hd]
      · rcases List.mem_cons.mp hd with rfl | hd
        · rfl
        · simp [h' d hd]

theorem numericPart_append (front back : List Char) :
    numericPart (front ++ back) = numericPart front ++ numericPart back :=
  List.filter_append front back

theorem IsDecimal.numericPart_eq {number : List Char} (h : IsDecimal number) :
    numericPart number = number := by
  obtain ⟨c, rest, rfl, hc, hrest⟩ := h.exists_eq
  exact List.filter_eq_self.mpr (List.forall_mem_cons.mpr ⟨by simp [hc], hrest⟩)

theorem takeWhile_isDigit_append {digits rest : List Char} (h : ∀ c ∈ digits, isDigit c = true)
    (hrest : ∀ c ∈ rest.head?, isDigit c = false) :
    (digits ++ rest).takeWhile isDigit = digits := by
  rw [List.takeWhile_append_of_pos h]
  cases rest with
  | nil => rw [List.takeWhile_nil, List.append_nil]
  | cons c rest => rw [List.takeWhile_cons_of_neg (by simp [hrest c rfl]), List.append_nil]

theorem isDigit_head_of_points {points : List Char} (h : ∀ c ∈ points, c = '.') :
    ∀ c ∈ points.head?, isDigit c = false := by
  intro c hc
  rw [h c (List.mem_of_mem_head? hc)]
  rfl

theorem leadingNumber_digits {digits points : List Char} (hne : digits ≠ [])
    (h : ∀ c ∈ digits, isDigit c = true) (hpoints : ∀ c ∈ points, c = '.') :
    leadingNumber (digits ++ points) = digits := by
  obtain ⟨d, digits, rfl⟩ := List.exists_cons_of_ne_nil hne
  unfold leadingNumber
  rw [takeWhile_isDigit_append h (isDigit_head_of_points hpoints)]
  dsimp only
  rw [List.drop_left]
  cases points with
  | nil => rfl
  | cons point points =>
      obtain ⟨rfl, hlater⟩ := List.forall_mem_cons.mp hpoints
      have hfraction : points.takeWhile isDigit = [] :=
        @takeWhile_isDigit_append [] points (by simp) (isDigit_head_of_points hlater)
      simp only [hfraction, List.isEmpty_nil, if_true]

theorem leadingNumber_pointed {digits fraction points : List Char} (hne : digits ≠ [])
    (h : ∀ c ∈ digits, isDigit c = true) (hne' : fraction ≠ [])
    (h' : ∀ c ∈ fraction, isDigit c = true) (hpoints : ∀ c ∈ points, c = '.') :
    leadingNumber (digits ++ '.' :: (fraction ++ points)) = digits ++ '.' :: fraction := by
  obtain ⟨d, digits, rfl⟩ := List.exists_cons_of_ne_nil hne
  have hfraction : fraction.isEmpty = false := by simpa using hne'
  unfold leadingNumber
  rw [takeWhile_isDigit_append h (by simp; rfl)]
  dsimp only
  rw [List.drop_left]
  simp only [takeWhile_isDigit_append h' (isDigit_head_of_points hpoints), hfraction,
    Bool.false_eq_true, if_false]

/-- **The number at the start of a text is all of it, but for points behind it.** -/
theorem IsDecimal.leadingNumber_append {number points : List Char} (h : IsDecimal number)
    (hpoints : ∀ c ∈ points, c = '.') : leadingNumber (number ++ points) = number := by
  cases h with
  | whole hne h => exact leadingNumber_digits hne h hpoints
  | pointed hne h hne' h' =>
      rw [List.append_assoc, List.cons_append]
      exact leadingNumber_pointed hne h hne' h' hpoints

/-! ## Texts without a size -/

/-- There is neither a digit nor a label in a text. -/
structure SaysNoSize (s : String) : Prop where
  no_digit : ∀ c ∈ s.toList, isDigit c = false
  no_label : ∀ label, IsLabel label → contains label s = false

/-- Of such a text, the points are left. -/
theorem SaysNoSize.numericPart_eq {s : String} (h : SaysNoSize s) :
    numericPart s.toList = s.toList.filter (· == '.') :=
  List.filter_congr fun c hc => by rw [h.no_digit c hc, Bool.false_or]

variable {before number label other after : String}

/-- **The text around a size shows no other label.** -/
theorem contains_between (hlabel : IsLabel label) (hother : IsLabel other)
    (hnumber : IsDecimal number.toList) (hbefore : SaysNoSize before) (hafter : SaysNoSize after) :
    contains other (strip (before ++ number ++ " " ++ label ++ after)) = true ↔ other = label := by
  obtain ⟨c, rest, hchars, hc, hrest⟩ := hnumber.exists_eq
  have hB : 'B' ∈ other.toList := hother.mem_toList
  have hne : other.toList ≠ [] := List.ne_nil_of_mem hB
  have hdigit : c ∉ other.toList := by
    intro hmem
    rw [(hother.letters hmem).1] at hc
    cases hc
  have hspace : ' ' ∉ other.toList := fun hmem => absurd (hother.letters hmem).2.2 (by decide)
  have hbefore' : ¬ other.toList <:+: before.toList := by
    rw [← occursIn_iff]
    exact Bool.eq_false_iff.mp (hbefore.no_label other hother)
  have hafter' : ¬ other.toList <:+: after.toList := by
    rw [← occursIn_iff]
    exact Bool.eq_false_iff.mp (hafter.no_label other hother)
  have hrest' : ¬ other.toList <:+: rest := fun hpart =>
    absurd (hrest 'B' (hpart.subset hB)) (by decide)
  -- A label has no digit and no blank, so it is found in one of the parts between these.
  have hsplit : (before ++ number ++ " " ++ label ++ after).toList =
      (before.toList ++ c :: rest) ++ ' ' :: (label.toList ++ after.toList) := by
    simp [hchars]
  unfold contains strip
  rw [occursIn_iff, String.toList_ofList,
    infix_stripBy_iff hne fun d hd => (hother.letters hd).2.2, hsplit,
    infix_append_cons_iff hspace, infix_append_cons_iff hdigit, hother.infix_append_iff hlabel]
  simp only [hbefore', hafter', hrest', or_false, false_or]

/-- The unit of a size is that of its label, whatever is around it. -/
theorem sizeUnit?_between {unit : SizeUnit} (hunit : unit ∈ sizeUnits)
    (hlabel : label ∈ unit.labels) (hnumber : IsDecimal number.toList)
    (hbefore : SaysNoSize before) (hafter : SaysNoSize after) :
    sizeUnit? (strip (before ++ number ++ " " ++ label ++ after)) = some unit := by
  have hshows : ∀ unit' ∈ sizeUnits, (unit'.labels.any fun other =>
      contains other (strip (before ++ number ++ " " ++ label ++ after))) =
        unit'.labels.contains label := by
    intro unit' hunit'
    rw [Bool.eq_iff_iff, List.any_eq_true, List.contains_iff_mem]
    constructor
    · rintro ⟨other, hmem, hshown⟩
      have hother := (contains_between ⟨unit, hunit, hlabel⟩ ⟨unit', hunit', hmem⟩ hnumber hbefore
        hafter).mp hshown
      exact hother ▸ hmem
    · intro hmem
      exact ⟨label, hmem, (contains_between ⟨unit, hunit, hlabel⟩ ⟨unit', hunit', hmem⟩ hnumber
        hbefore hafter).mpr rfl⟩
  unfold sizeUnit?
  rw [List.find?_congr hshows]
  exact find?_label hunit hlabel

/-- Of a size among other characters, its number is left, and points around it. -/
theorem numericPart_between (hlabel : IsLabel label) (hnumber : IsDecimal number.toList)
    (hbefore : SaysNoSize before) (hafter : SaysNoSize after) :
    numericPart (strip (before ++ number ++ " " ++ label ++ after)).toList =
      before.toList.filter (· == '.') ++ number.toList ++ after.toList.filter (· == '.') := by
  -- What is cut off at both ends is blank, and nothing blank is kept in the number.
  have hblank : ∀ c, isBlank c = true → (isDigit c || c == '.') = false := by
    intro c hc
    have hpoint : c ≠ '.' := by
      rintro rfl
      cases hc
    have hdigit : isDigit c = false := Bool.eq_false_iff.mpr fun hdigit => by
      rw [isBlank_of_isDigit hdigit] at hc
      cases hc
    simp [hdigit, hpoint]
  have hletters : numericPart label.toList = [] := List.filter_eq_nil_iff.mpr fun c hc => by
    simp [hlabel.letters hc]
  have hspace : numericPart [' '] = [] := by decide
  have hchars : (before ++ number ++ " " ++ label ++ after).toList =
      before.toList ++ number.toList ++ [' '] ++ label.toList ++ after.toList := by
    simp
  have hstrip : numericPart (stripBy isBlank (before ++ number ++ " " ++ label ++ after).toList) =
      numericPart (before ++ number ++ " " ++ label ++ after).toList := filter_stripBy hblank _
  unfold strip
  rw [String.toList_ofList, hstrip, hchars, numericPart_append, numericPart_append,
    numericPart_append, numericPart_append, hbefore.numericPart_eq, hnumber.numericPart_eq, hspace,
    hletters, hafter.numericPart_eq, List.append_nil, List.append_nil]

/-! ## Reading -/

/-- A text that shows no unit is read as a number of bytes. -/
theorem value_readSize_of_none {s : String} (h : sizeUnit? (strip s) = none) :
    (readSize s).value = wholeNumber (strip s) := by
  unfold readSize readSizeShown
  by_cases hs : s = ""
  · subst hs
    rfl
  · rw [if_neg hs]
    dsimp only
    rw [h]
    exact value_readInteger (strip s)

/-- What is read if a text shows a unit. -/
theorem value_readSize_of_unit {s : String} {unit : SizeUnit}
    (hunit : sizeUnit? (strip s) = some unit) :
    (readSize s).value =
      if leadingNumber (numericPart (strip s).toList) = [] then 0
      else (bytesOf? (leadingNumber (numericPart (strip s).toList)) unit).getD 0 := by
  have hs : s ≠ "" := by
    rintro rfl
    have : sizeUnit? (strip "") = none := by rfl
    cases this.symm.trans hunit
  unfold readSize readSizeShown
  rw [if_neg hs]
  dsimp only
  rw [hunit]
  dsimp only
  cases hnumber : leadingNumber (numericPart (strip s).toList) with
  | nil => rfl
  | cons c cs =>
      rw [if_neg (List.cons_ne_nil c cs)]
      dsimp only
      cases bytesOf? (c :: cs) unit <;> rfl

/-- What is read of a size among other characters. -/
theorem value_readSize_between {unit : SizeUnit} (hunit : unit ∈ sizeUnits)
    (hlabel : label ∈ unit.labels) (hnumber : IsDecimal number.toList)
    (hbefore : SaysNoSize before) (hafter : SaysNoSize after) :
    (readSize (before ++ number ++ " " ++ label ++ after)).value =
      if '.' ∈ before.toList then 0 else (bytesOf? number.toList unit).getD 0 := by
  have hpoints : ∀ c ∈ after.toList.filter (· == '.'), c = '.' := fun c hc => by
    simpa using (List.mem_filter.mp hc).2
  rw [value_readSize_of_unit (sizeUnit?_between hunit hlabel hnumber hbefore hafter),
    numericPart_between ⟨unit, hunit, hlabel⟩ hnumber hbefore hafter]
  by_cases hpoint : '.' ∈ before.toList
  · -- a point at the start is no number
    obtain ⟨front, hfront⟩ : ∃ front, before.toList.filter (· == '.') = '.' :: front := by
      cases hfilter : before.toList.filter (· == '.') with
      | nil => simpa using List.filter_eq_nil_iff.mp hfilter '.' hpoint
      | cons c front =>
          have hc : c ∈ before.toList.filter (· == '.') := hfilter ▸ List.mem_cons_self
          obtain rfl : c = '.' := by simpa using (List.mem_filter.mp hc).2
          exact ⟨front, rfl⟩
    rw [if_pos hpoint, hfront]
    exact if_pos rfl
  · have hnone : before.toList.filter (· == '.') = [] := List.filter_eq_nil_iff.mpr fun c hc => by
      simp only [beq_iff_eq]
      exact fun heq => hpoint (heq ▸ hc)
    obtain ⟨c, rest, hchars, -⟩ := hnumber.exists_eq
    rw [if_neg hpoint, hnone, List.nil_append, hnumber.leadingNumber_append hpoints, if_neg]
    rw [hchars]
    exact List.cons_ne_nil c rest

/-- It can be checked whether a text shows no size. -/
theorem saysNoSize_of {s : String} (hdigit : s.toList.any isDigit = false)
    (hlabel : ∀ unit ∈ sizeUnits, ∀ label ∈ unit.labels, contains label s = false) :
    SaysNoSize s where
  no_digit c hc := Bool.eq_false_iff.mpr (List.any_eq_false.mp hdigit c hc)
  no_label _ h := h.all (P := fun label => contains label s = false) hlabel

theorem saysNoSize_empty : SaysNoSize "" := saysNoSize_of (by decide) (by decide)

/-- **Text around a size.**  A size is read as the number of bytes that its number makes of its
unit, and so it is among other characters without digits and labels, unless a point is before it;
then it is read as zero. -/
theorem readSize_between {unit : SizeUnit} (hunit : unit ∈ sizeUnits)
    (hlabel : label ∈ unit.labels) (hnumber : IsDecimal number.toList)
    (hbefore : SaysNoSize before) (hafter : SaysNoSize after) :
    (readSize (number ++ " " ++ label)).value = (bytesOf? number.toList unit).getD 0 ∧
      (readSize (before ++ number ++ " " ++ label ++ after)).value =
        if '.' ∈ before.toList then 0 else (readSize (number ++ " " ++ label)).value := by
  have hplain :
      (readSize (number ++ " " ++ label)).value = (bytesOf? number.toList unit).getD 0 := by
    have halone := value_readSize_between hunit hlabel hnumber saysNoSize_empty saysNoSize_empty
    simpa using halone
  refine ⟨hplain, ?_⟩
  rw [hplain]
  exact value_readSize_between hunit hlabel hnumber hbefore hafter

theorem isDecimal_sample : IsDecimal "1.5".toList :=
  @IsDecimal.pointed ['1'] ['5'] (by decide) (List.all_eq_true.mp rfl) (by decide)
    (List.all_eq_true.mp rfl)

/-- A size is read between a word and a remark that has points. -/
theorem readSize_between_remark :
    SaysNoSize "size: " ∧ SaysNoSize " (about...)" ∧
      (readSize ("size: " ++ "1.5" ++ " " ++ "GiB" ++ " (about...)")).value = 1610612736 := by
  have hbefore : SaysNoSize "size: " := saysNoSize_of (by decide) (by decide)
  have hafter : SaysNoSize " (about...)" := saysNoSize_of (by decide) (by decide)
  have hunit : ⟨["GB", "GiB"], Nat.pow 1024 3⟩ ∈ sizeUnits := by simp [sizeUnits]
  have hlabel : "GiB" ∈ ["GB", "GiB"] := by decide
  obtain ⟨-, hread⟩ := readSize_between hunit hlabel isDecimal_sample hbefore hafter
  refine ⟨hbefore, hafter, ?_⟩
  rw [hread, if_neg (by decide)]
  decide +kernel

/-- A point before a size takes the place of its number. -/
theorem readSize_abbreviated :
    SaysNoSize "approx. " ∧ SaysNoSize "" ∧ IsDecimal "1.5".toList ∧
      (readSize ("1.5" ++ " " ++ "GB")).value = 1610612736 ∧
      (readSize ("approx. " ++ "1.5" ++ " " ++ "GB" ++ "")).value = 0 :=
  ⟨saysNoSize_of (by decide) (by decide), saysNoSize_empty, isDecimal_sample,
    by decide +kernel, by decide +kernel⟩

end ReleaseSearch.Results
