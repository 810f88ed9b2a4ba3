import Mathlib.Data.Nat.Digits.Defs
import ReleaseSearch.Proofs.Run
import ReleaseSearch.Results.Value

/-!
# Whole numbers among other characters

A whole number is read from the digits of a text, whatever stands between them.  The digits may be
of any scripts, and of several ones.  `IsNumeral` says which number some digits write, and
`Scattered` that a text has them in their order; a text has no other digits (`scattered_iff`), so
that they are the ones that are read.
-/

namespace ReleaseSearch.Results

open Text Decimal

/-! ## Numerals -/

/-- Some digits write a number in base ten. -/
structure IsNumeral (digits : List Char) (n : Nat) : Prop where
  ne_nil : digits ≠ []
  value : ∃ values, List.Forall₂ (fun c v => digitValue? c = some v) digits values ∧
    Nat.ofDigits 10 values.reverse = n

theorem ofDigits_eq (values : List Nat) : ofDigits values = Nat.ofDigits 10 values.reverse := by
  unfold ofDigits
  rw [Nat.ofDigits_eq_foldr, List.foldr_reverse]
  simp only [Nat.cast_id, Nat.add_comm]

/-- The values of digits are what reading makes of them. -/
theorem forall₂_digitValue?_iff {digits : List Char} {values : List Nat} :
    List.Forall₂ (fun c v => digitValue? c = some v) digits values ↔
      (∀ c ∈ digits, isDigit c = true) ∧ digits.filterMap digitValue? = values := by
  constructor
  · intro h
    induction h with
    | nil => exact ⟨fun c hc => absurd hc List.not_mem_nil, rfl⟩
    | @cons c v digits values hc _ ih =>
        refine ⟨List.forall_mem_cons.mpr ⟨?_, ih.1⟩, ?_⟩
        · unfold isDigit
          rw [hc]
          rfl
        · rw [List.filterMap_cons_some hc, ih.2]
  · rintro ⟨hdigits, rfl⟩
    induction digits with
    | nil => exact .nil
    | cons c digits ih =>
        obtain ⟨hc, hdigits⟩ := List.forall_mem_cons.mp hdigits
        obtain ⟨v, hv⟩ := Option.isSome_iff_exists.mp hc
        rw [List.filterMap_cons_some hv]
        exact .cons hv (ih hdigits)

theorem isNumeral_iff {digits : List Char} {n : Nat} :
    IsNumeral digits n ↔ digits ≠ [] ∧ (∀ c ∈ digits, isDigit c = true) ∧
      ofDigits (digits.filterMap digitValue?) = n := by
  constructor
  · rintro ⟨hne, values, hvalues, hn⟩
    obtain ⟨hdigits, rfl⟩ := forall₂_digitValue?_iff.mp hvalues
    exact ⟨hne, hdigits, (ofDigits_eq _).trans hn⟩
  · rintro ⟨hne, hdigits, hn⟩
    exact ⟨hne, _, forall₂_digitValue?_iff.mpr ⟨hdigits, rfl⟩, (ofDigits_eq _).symm.trans hn⟩

/-! ## Other characters -/

/-- A text is made of some characters by inserting others, which are no digits, at any places. -/
inductive Scattered : List Char → List Char → Prop
  | nil : Scattered [] []
  | keep {c : Char} {chars cs : List Char} (h : Scattered chars cs) :
      Scattered (c :: chars) (c :: cs)
  | insert {c : Char} {chars cs : List Char} (hc : isDigit c = false) (h : Scattered chars cs) :
      Scattered chars (c :: cs)

/-- **The digits that are scattered in a text are all of its digits.** -/
theorem scattered_iff {digits cs : List Char} (hdigits : ∀ c ∈ digits, isDigit c = true) :
    Scattered digits cs ↔ digitsOf cs = digits := by
  unfold digitsOf
  constructor
  · intro h
    induction h with
    | nil => rfl
    | keep _ ih =>
        obtain ⟨hc, hdigits⟩ := List.forall_mem_cons.mp hdigits
        rw [List.filter_cons_of_pos hc, ih hdigits]
    | insert hc _ ih => rw [List.filter_cons_of_neg (by simp [hc]), ih hdigits]
  · rintro rfl
    clear hdigits
    induction cs with
    | nil => exact .nil
    | cons c cs ih =>
        by_cases hc : isDigit c = true
        · rw [List.filter_cons_of_pos hc]
          exact .keep ih
        · rw [List.filter_cons_of_neg hc]
          exact .insert (Bool.not_eq_true _ ▸ hc) ih

/-- A text holds a numeral that is not too long. -/
structure Holds (cs digits : List Char) (n : Nat) : Prop where
  numeral : IsNumeral digits n
  length_le : digits.length ≤ digitLimit
  scattered : Scattered digits cs

/-! ## Reading -/

theorem value_readInteger (s : String) : (readInteger s).value = wholeNumber s := by
  unfold readInteger
  dsimp only
  split <;> rfl

theorem wholeNumber?_eq_some_iff {cs : List Char} {n : Nat} :
    wholeNumber? cs = some n ↔ ∃ digits, Holds cs digits n := by
  unfold wholeNumber?
  dsimp only
  constructor
  · intro h
    split at h
    · cases h
    · next hnot =>
        rw [not_or, List.isEmpty_iff, Nat.not_lt] at hnot
        obtain ⟨hne, hlength⟩ := hnot
        have hdigits : ∀ c ∈ digitsOf cs, isDigit c = true := fun c hc => (List.mem_filter.mp hc).2
        exact ⟨digitsOf cs, isNumeral_iff.mpr ⟨hne, hdigits, Option.some.inj h⟩, hlength,
          (scattered_iff hdigits).mpr rfl⟩
  · rintro ⟨digits, hnumeral, hlength, hscattered⟩
    obtain ⟨hne, hdigits, hn⟩ := isNumeral_iff.mp hnumeral
    rw [(scattered_iff hdigits).mp hscattered, if_neg, hn]
    rw [not_or, List.isEmpty_iff, Nat.not_lt]
    exact ⟨hne, hlength⟩

theorem wholeNumber?_eq_none_iff {cs : List Char} :
    wholeNumber? cs = none ↔ cs.countP isDigit = 0 ∨ digitLimit < cs.countP isDigit := by
  have hcount : cs.countP isDigit = (digitsOf cs).length := List.countP_eq_length_filter
  rw [hcount, List.length_eq_zero_iff, ← List.isEmpty_iff]
  unfold wholeNumber?
  dsimp only
  split
  · next h => exact iff_of_true rfl h
  · next h => exact iff_of_false (Option.some_ne_none _) h

theorem exists_holds_iff {cs : List Char} :
    (∃ digits n, Holds cs digits n) ↔ 0 < cs.countP isDigit ∧ cs.countP isDigit ≤ digitLimit := by
  have hread : (∃ digits n, Holds cs digits n) ↔ wholeNumber? cs ≠ none := by
    simp only [Option.ne_none_iff_exists', wholeNumber?_eq_some_iff]
    exact exists_comm
  rw [hread, ne_eq, wholeNumber?_eq_none_iff]
  omega

/-- **A whole number is read whatever stands between its digits.**  Reading always ends in a number.

* If a text is made of a numeral of at most 4300 digits by inserting other characters, the number
  that the numeral writes is read.
* Every other text is read as zero.
* The others are the texts without digits, and those with more than 4300. -/
theorem readInteger_scattered (s : String) :
    ∃ read, Run.outcome (ExceptT.lift (readInteger s)) = .ok read ∧
      (∀ digits n, IsNumeral digits n → digits.length ≤ digitLimit → Scattered digits s.toList →
        read = n) ∧
      ((¬ ∃ digits n, Holds s.toList digits n) → read = 0) ∧
      ((∃ digits n, Holds s.toList digits n) ↔
        0 < s.toList.countP isDigit ∧ s.toList.countP isDigit ≤ digitLimit) := by
  refine ⟨_, Run.outcome_lift _, ?_, ?_, exists_holds_iff⟩
  all_goals rw [value_readInteger]; unfold wholeNumber
  · intro digits n hnumeral hlength hscattered
    rw [wholeNumber?_eq_some_iff.mpr ⟨digits, hnumeral, hlength, hscattered⟩]
    rfl
  · intro h
    cases hread : wholeNumber? s.toList with
    | none => rfl
    | some n =>
        obtain ⟨digits, hholds⟩ := wholeNumber?_eq_some_iff.mp hread
        exact absurd ⟨digits, n, hholds⟩ h

/-- Digits of two scripts make one number. -/
example : (readInteger "1,0٣4 peers").value = 1034 := by decide

end ReleaseSearch.Results
