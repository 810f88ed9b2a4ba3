import Mathlib.Data.List.TakeWhile
import Mathlib.Tactic.Ring
import ReleaseSearch.Decimal.Read
import ReleaseSearch.Decimal.Shortest

/-!
# Decimal digits

What the digits `0` to `9` say, in a row:

    digitsValue (natDigits n) = n
    digitsValue (front ++ back) = digitsValue front * 10 ^ back.length + digitsValue back

With `digitsValue back < 10 ^ back.length` this tells what a part of the digits of a number says.
-/

namespace ReleaseSearch.Decimal

open Text

/-! ## Digits -/

theorem isAsciiDigit_iff {c : Char} : isAsciiDigit c = true ↔ 48 ≤ c.toNat ∧ c.toNat ≤ 57 := by
  unfold isAsciiDigit
  rw [Bool.and_eq_true, decide_eq_true_iff, decide_eq_true_iff]
  exact Iff.rfl

theorem ne_of_isAsciiDigit {c d : Char} (hc : isAsciiDigit c = true)
    (hd : isAsciiDigit d = false) : c ≠ d := by
  rintro rfl
  rw [hc] at hd
  cases hd

theorem digitValue?_of_isAsciiDigit {c : Char} (h : isAsciiDigit c = true) :
    digitValue? c = some (c.toNat - 48) := by
  have hc := isAsciiDigit_iff.mp h
  unfold digitValue?
  simp only
  rw [if_pos (by omega), if_pos hc]

theorem isDigit_of_isAsciiDigit {c : Char} (h : isAsciiDigit c = true) : isDigit c = true := by
  unfold isDigit
  rw [digitValue?_of_isAsciiDigit h]
  rfl

theorem isBlank_of_isAsciiDigit {c : Char} (h : isAsciiDigit c = true) : isBlank c = false := by
  have := isAsciiDigit_iff.mp h
  simp [isBlank]
  omega

/-- Nothing but the digits `0` to `9`. -/
def AreDigits (cs : List Char) : Prop := ∀ c ∈ cs, isAsciiDigit c = true

theorem areDigits_iff {cs : List Char} : AreDigits cs ↔ cs.all isAsciiDigit = true :=
  List.all_eq_true.symm

@[simp] theorem areDigits_nil : AreDigits [] := fun _ h => absurd h List.not_mem_nil

@[simp] theorem areDigits_cons {c : Char} {cs : List Char} :
    AreDigits (c :: cs) ↔ isAsciiDigit c = true ∧ AreDigits cs := List.forall_mem_cons

@[simp] theorem areDigits_append {front back : List Char} :
    AreDigits (front ++ back) ↔ AreDigits front ∧ AreDigits back := List.forall_mem_append

theorem AreDigits.sublist {cs cs' : List Char} (h : AreDigits cs) (hsub : cs'.Sublist cs) :
    AreDigits cs' := fun c hc => h c (hsub.subset hc)

theorem AreDigits.takeWhile_eq {cs : List Char} (h : AreDigits cs) :
    cs.takeWhile isAsciiDigit = cs := List.takeWhile_eq_self_iff.mpr h

/-! ## Values -/

theorem digitsValue_eq_ofDigitChars (cs : List Char) : digitsValue cs = Nat.ofDigitChars 10 cs 0 :=
  Nat.ofDigitChars_eq_foldl.symm

theorem ofDigits_map (cs : List Char) :
    ofDigits (cs.map fun c => c.toNat - 48) = digitsValue cs := by
  unfold ofDigits digitsValue
  rw [List.foldl_map]

theorem AreDigits.filterMap_digitValue? {cs : List Char} (h : AreDigits cs) :
    cs.filterMap digitValue? = cs.map fun c => c.toNat - 48 := by
  induction cs with
  | nil => rfl
  | cons c cs ih =>
      obtain ⟨hc, hcs⟩ := areDigits_cons.mp h
      rw [List.filterMap_cons_some (digitValue?_of_isAsciiDigit hc), ih hcs, List.map_cons]

theorem digitsValue_append (front back : List Char) :
    digitsValue (front ++ back) = digitsValue front * 10 ^ back.length + digitsValue back := by
  simp only [digitsValue_eq_ofDigitChars, Nat.ofDigitChars_append]
  rw [Nat.ofDigitChars_eq_ofDigitChars_zero, Nat.mul_comm]

theorem AreDigits.digitsValue_lt {cs : List Char} (h : AreDigits cs) :
    digitsValue cs < 10 ^ cs.length := by
  induction cs with
  | nil => exact Nat.one_pos
  | cons c cs ih =>
      obtain ⟨hc, hcs⟩ := areDigits_cons.mp h
      have hc := isAsciiDigit_iff.mp hc
      have hfirst : digitsValue [c] = c.toNat - 48 := by simp [digitsValue]
      rw [← List.singleton_append, digitsValue_append, hfirst, List.length_append,
        List.length_singleton, Nat.pow_add, Nat.pow_one]
      have hle : (c.toNat - 48) * 10 ^ cs.length ≤ 9 * 10 ^ cs.length :=
        Nat.mul_le_mul_right _ (by omega)
      have := ih hcs
      omega

/-- Two digits more are worth less than a hundred, and count those before them a hundred times. -/
theorem AreDigits.digitsValue_append_two {back : List Char} (h : AreDigits back)
    (front : List Char) (htwo : back.length = 2) :
    digitsValue (front ++ back) = digitsValue front * 100 + digitsValue back ∧
      digitsValue back < 100 := by
  have hlt := h.digitsValue_lt
  rw [htwo] at hlt
  rw [digitsValue_append, htwo]
  exact ⟨rfl, hlt⟩

/-- A first digit that is not zero counts for all places after it. -/
theorem pow_le_digitsValue {c : Char} {cs : List Char} (hc : isAsciiDigit c = true)
    (hne : c ≠ '0') : 10 ^ cs.length ≤ digitsValue (c :: cs) := by
  have hbounds := isAsciiDigit_iff.mp hc
  have hzero : c.toNat ≠ 48 := fun h => hne (Char.toNat_inj.mp h)
  have hfirst : digitsValue [c] = c.toNat - 48 := by simp [digitsValue]
  rw [← List.singleton_append, digitsValue_append, hfirst]
  exact (Nat.le_mul_of_pos_left _ (by omega)).trans (Nat.le_add_right _ _)

/-! ## The digits of a number -/

theorem areDigits_natDigits (n : Nat) : AreDigits (natDigits n) := by
  intro c hc
  have hdigit : c.isDigit = true :=
    Nat.isDigit_of_mem_toDigits (by decide) (by decide) hc
  rw [isAsciiDigit_iff]
  simpa [Char.isDigit, UInt32.le_iff_toNat_le] using hdigit

@[simp] theorem digitsValue_natDigits (n : Nat) : digitsValue (natDigits n) = n := by
  rw [digitsValue_eq_ofDigitChars]
  exact Nat.ofDigitChars_ten_toDigits

theorem natDigits_ne_nil (n : Nat) : natDigits n ≠ [] := Nat.toDigits_ne_nil

theorem length_natDigits_le_iff {n k : Nat} (hk : 0 < k) :
    (natDigits n).length ≤ k ↔ n < 10 ^ k := Nat.length_toDigits_le_iff (by decide) hk

theorem pow_le_of_length {n : Nat} (h : 1 < (natDigits n).length) :
    10 ^ ((natDigits n).length - 1) ≤ n := by
  by_contra hlt
  have hle : (natDigits n).length ≤ (natDigits n).length - 1 :=
    (length_natDigits_le_iff (by omega)).mpr (Nat.lt_of_not_le hlt)
  omega

theorem intText_natCast (n : Nat) : intText (n : Int) = String.ofList (natDigits n) := by
  unfold intText
  rw [if_neg (by omega), Int.natAbs_natCast]

end ReleaseSearch.Decimal
