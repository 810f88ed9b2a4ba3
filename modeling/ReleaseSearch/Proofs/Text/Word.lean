import ReleaseSearch.Text.Blank
import ReleaseSearch.Text.Case
import ReleaseSearch.Text.Word

/-!
# Word characters

Every decimal digit is a word character, whatever its script.  A capital letter of ASCII and its
small form are told apart by none of the tests for words, digits and blanks.
-/

namespace ReleaseSearch.Text

/-! ## Digits -/

theorem isWord_beyond {c : Char} (h : 128 ≤ c.toNat) :
    isWord c = wordRanges.toList.any fun r => r.1 ≤ c.toNat && c.toNat ≤ r.2 := by
  unfold isWord
  dsimp only
  rw [if_neg (by omega), Array.any_toList]

/-- Beyond ASCII, each run of digits lies within a run of word characters. -/
theorem digitZeros_within : ∀ z ∈ digitZeros, z = 48 ∨ 128 ≤ z ∧
    (wordRanges.toList.any fun r => r.1.ble z && (z + 9).ble r.2) = true := by
  decide +kernel

/-- A digit is in one of the runs. -/
theorem exists_zero_of_isDigit {c : Char} (h : isDigit c = true) :
    ∃ z ∈ digitZeros, z ≤ c.toNat ∧ c.toNat < z + 10 := by
  unfold isDigit digitValue? at h
  dsimp only at h
  split at h
  · split at h
    · next hascii => exact ⟨48, by decide, by omega, by omega⟩
    · cases h
  · obtain ⟨z, hz, hfound⟩ := List.findSome?_isSome_iff.mp h
    split at hfound
    · next hrun => exact ⟨z, hz, hrun⟩
    · cases hfound

theorem isWord_of_isDigit {c : Char} (h : isDigit c = true) : isWord c = true := by
  obtain ⟨z, hz, hlo, hhi⟩ := exists_zero_of_isDigit h
  rcases digitZeros_within z hz with rfl | ⟨hbeyond, hwithin⟩
  · have hascii : c.toNat < 128 := by omega
    have hlast : c.toNat ≤ 57 := by omega
    simp [isWord, hascii, hlo, hlast]
  · obtain ⟨r, hr, hbounds⟩ := List.any_eq_true.mp hwithin
    rw [isWord_beyond (by omega)]
    refine List.any_eq_true.mpr ⟨r, hr, ?_⟩
    simp only [Bool.and_eq_true, Nat.ble_eq, decide_eq_true_eq] at hbounds ⊢
    omega

theorem isBlank_of_isDigit {c : Char} (h : isDigit c = true) : isBlank c = false := by
  obtain ⟨z, hz, hlo, hhi⟩ := exists_zero_of_isDigit h
  have hall : ∀ z ∈ digitZeros, ∀ k < 10, isBlank (Char.ofNat (z + k)) = false := by
    decide +kernel
  have hblank := hall z hz (c.toNat - z) (by omega)
  rwa [Nat.add_sub_cancel' hlo, Char.ofNat_toNat] at hblank

/-! ## Letters -/

/-- A test that tells none of the 26 letters from its capital tells no character from its small
form. -/
theorem asciiLowerChar_blind {α : Type} (test : Char → α)
    (h : ∀ n < 26, test (Char.ofNat (65 + n + 32)) = test (Char.ofNat (65 + n))) (c : Char) :
    test (asciiLowerChar c) = test c := by
  unfold asciiLowerChar
  split
  · next hc =>
      have hlo : 65 ≤ c.toNat := hc.1
      have hhi : c.toNat ≤ 90 := hc.2
      have hletter := h (c.toNat - 65) (by omega)
      have hnumber : 65 + (c.toNat - 65) = c.toNat := by omega
      rwa [hnumber, Char.ofNat_toNat] at hletter
  · rfl

theorem asciiLowerChar_of_not_isWord {c : Char} (h : isWord c = false) : asciiLowerChar c = c := by
  refine if_neg fun hc => ?_
  have hlo : 65 ≤ c.toNat := hc.1
  have hhi : c.toNat ≤ 90 := hc.2
  have hascii : c.toNat < 128 := by omega
  simp [isWord, hascii, hlo, hhi] at h

theorem isWord_asciiLowerChar (c : Char) : isWord (asciiLowerChar c) = isWord c :=
  asciiLowerChar_blind isWord (by decide) c

theorem isDigit_asciiLowerChar (c : Char) : isDigit (asciiLowerChar c) = isDigit c :=
  asciiLowerChar_blind isDigit (by decide) c

theorem isBlank_asciiLowerChar (c : Char) : isBlank (asciiLowerChar c) = isBlank c :=
  asciiLowerChar_blind isBlank (by decide) c

end ReleaseSearch.Text
