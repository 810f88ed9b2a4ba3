import ReleaseSearch.Text.Case
import Mathlib.Data.List.Basic

/-!
# Lower case within ASCII

`lower` knows the case pairs of all of Unicode, but hardly anything beyond ASCII has a lower-case
form within it: the kelvin sign becomes a `k`, and a dotted capital I becomes an `i` and a dot.  So
a text with an ASCII word without a `k` as its lower-case form is that word itself, up to the case
of its ASCII letters (`lower_eq_iff`).
-/

namespace ReleaseSearch.Text

/-! ## Single characters -/

theorem lowerChar_of_ascii {c : Char} (h : c.toNat < 128) : lowerChar c = asciiLowerChar c := by
  unfold lowerChar asciiLowerChar
  rw [if_pos h]
  exact if_congr Iff.rfl rfl rfl

theorem asciiLowerChar_of_beyond {c : Char} (h : 128 ≤ c.toNat) : asciiLowerChar c = c := by
  refine if_neg fun hc => ?_
  have hhi : c.toNat ≤ 90 := hc.2
  omega

/-- Where the runs of capital letters lead: to characters beyond ASCII, but for the dotted capital I
and the kelvin sign. -/
theorem lowerRuns_lead : ∀ r ∈ lowerRuns.toList, r.1 = 0x130 ∧ r.2.1 = 0x130 ∨
    r = (0x212a, 0x212a, 1, -8383) ∨ (128 ≤ r.1 + r.2.2.2 ∧ r.2.1 + r.2.2.2 < 0xd800) ∨
    (0xe000 ≤ r.1 + r.2.2.2 ∧ r.2.1 + r.2.2.2 < 0x110000) := by
  decide +kernel

theorem exists_run_of_shiftOf? {runs : Array (Nat × Nat × Nat × Int)} {n : Nat} {shift : Int}
    (h : shiftOf? runs n = some shift) :
    ∃ r ∈ runs.toList, r.1 ≤ n ∧ n ≤ r.2.1 ∧ r.2.2.2 = shift := by
  obtain ⟨r, hfind, hshift⟩ := Option.map_eq_some_iff.mp h
  have hwithin := Array.find?_some hfind
  simp only [Bool.and_eq_true, decide_eq_true_eq] at hwithin
  exact ⟨r, (Array.mem_of_find?_eq_some hfind).val, hwithin.1.1, hwithin.1.2, hshift⟩

theorem toNat_shiftChar (n : Nat) (shift : Int)
    (h : 0 ≤ n + shift ∧ n + shift < 0xd800 ∨ 0xe000 ≤ n + shift ∧ n + shift < 0x110000) :
    ((shiftChar n shift).toNat : Int) = n + shift := by
  have hvalid : (n + shift).toNat.isValidChar := by
    unfold Nat.isValidChar
    omega
  have hnat : (shiftChar n shift).toNat = (n + shift).toNat := by
    unfold shiftChar Char.ofNat
    rw [dif_pos hvalid]
    rfl
  omega

/-- No other character beyond ASCII becomes one of ASCII. -/
theorem lowerChar_of_beyond {c : Char} (h : 128 ≤ c.toNat) (hdotted : c.toNat ≠ 0x130) :
    lowerChar c = 'k' ∨ 128 ≤ (lowerChar c).toNat := by
  unfold lowerChar
  dsimp only
  rw [if_neg (by omega)]
  split
  · next shift hshift =>
    obtain ⟨r, hr, hlo, hhi, rfl⟩ := exists_run_of_shiftOf? hshift
    rcases lowerRuns_lead r hr with hrun | rfl | hrun | hrun
    · omega
    · have hkelvin : c.toNat = 0x212a := Nat.le_antisymm hhi hlo
      rw [hkelvin]
      exact .inl rfl
    · have hlower := toNat_shiftChar c.toNat r.2.2.2 (by omega)
      omega
    · have hlower := toNat_shiftChar c.toNat r.2.2.2 (by omega)
      omega
  · exact .inr h

/-! ## Texts -/

variable (before rest : List Char) {c : Char}

theorem lowerAfter_of_ascii (h : c.toNat < 128) :
    lowerAfter before (c :: rest) = asciiLowerChar c :: lowerAfter (c :: before) rest := by
  have hsigma : (c.toNat == 0x3a3) = false := beq_false_of_ne (by omega)
  have hdotted : (c.toNat == 0x130) = false := beq_false_of_ne (by omega)
  simp only [lowerAfter, hsigma, hdotted, Bool.false_eq_true, if_false, lowerChar_of_ascii h,
    List.singleton_append]

/-- What a character beyond ASCII leaves in the lower-case form: a `k` or something beyond ASCII. -/
theorem exists_mem_lowerAfter_of_beyond (h : 128 ≤ c.toNat) :
    ∃ d ∈ lowerAfter before (c :: rest), d = 'k' ∨ 128 ≤ d.toNat := by
  simp only [lowerAfter]
  split
  · split
    · exact ⟨Char.ofNat 0x3c2, by simp, .inr (by decide)⟩
    · exact ⟨Char.ofNat 0x3c3, by simp, .inr (by decide)⟩
  · split
    · exact ⟨Char.ofNat 0x307, by simp, .inr (by decide)⟩
    · next hdotted =>
      exact ⟨lowerChar c, by simp, lowerChar_of_beyond h (by simpa using hdotted)⟩

/-- What is known of a word so that only ASCII letters can become it. -/
def IsAsciiWord (word : List Char) : Prop := ∀ d ∈ word, d ≠ 'k' ∧ d.toNat < 128

/-- The induction is on the text.  A character of ASCII becomes one character whatever is around it,
and any other one leaves something that is not in the word. -/
theorem lowerAfter_eq_iff {cs word : List Char} (hword : IsAsciiWord word) :
    lowerAfter before cs = word ↔ cs.map asciiLowerChar = word := by
  induction cs generalizing before word with
  | nil => rfl
  | cons c rest ih =>
      by_cases hc : c.toNat < 128
      · rw [lowerAfter_of_ascii before rest hc, List.map_cons]
        cases word with
        | nil => exact iff_of_false (List.cons_ne_nil _ _) (List.cons_ne_nil _ _)
        | cons d word =>
            have hrest : IsAsciiWord word := fun e he => hword e (List.mem_cons_of_mem _ he)
            rw [List.cons.injEq, List.cons.injEq, ih (c :: before) hrest]
      -- Beyond ASCII neither side is such a word: the Kelvin sign is lowered to a plain `k`, and all
      -- else stays beyond ASCII.
      · have hbeyond : 128 ≤ c.toNat := by omega
        refine iff_of_false ?_ ?_
        · rintro rfl
          obtain ⟨d, hd, hdk⟩ := exists_mem_lowerAfter_of_beyond before rest hbeyond
          have hascii := hword d hd
          exact hdk.elim hascii.1 (by omega)
        · rintro rfl
          have hascii := hword (asciiLowerChar c) List.mem_cons_self
          rw [asciiLowerChar_of_beyond hbeyond] at hascii
          omega

/-- **A text has an ASCII word without a `k` as its lower-case form** exactly if it is that word up
to the case of its ASCII letters. -/
theorem lower_eq_iff {s word : String} (hword : IsAsciiWord word.toList) :
    lower s = word ↔ s.toList.map asciiLowerChar = word.toList := by
  rw [← lowerAfter_eq_iff [] hword, ← String.toList_inj]
  unfold lower
  rw [String.toList_ofList]

end ReleaseSearch.Text
