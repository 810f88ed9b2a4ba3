import Mathlib
import ReleaseSearch.Decimal.Number
import ReleaseSearch.Decimal.Read
import ReleaseSearch.Proofs.Decimal.Digits
import ReleaseSearch.Proofs.Decimal.Double

/-!
# Whole numbers as doubles

A whole number below `2 ^ 53` is a double itself, and a quotient that is worth it goes to this
double without any rounding:

    floorLog2 (n * den) den = n.log2
    nearest? false (n * den) den = some x → (Number.real x).fraction? = some n
-/

namespace ReleaseSearch.Decimal

open Float.Model

/-! ## Scaling -/

theorem scale_natCast (num den k : Nat) : scale num den (k : Int) = (num * 2 ^ k, den) := by
  unfold scale
  rw [if_pos (by omega), Int.toNat_natCast, Nat.shiftLeft_eq]

theorem scale_neg_natCast (num den k : Nat) : scale num den (-(k : Int)) = (num, den * 2 ^ k) := by
  unfold scale
  split
  · next h =>
      obtain rfl : k = 0 := by omega
      simp
  · rw [Int.neg_neg, Int.toNat_natCast, Nat.shiftLeft_eq]

theorem roundQuotient_mul (q : Nat) {den : Nat} (hden : 0 < den) :
    roundQuotient (q * den) den = q := by
  unfold roundQuotient
  simp [Nat.mul_div_cancel q hden, Nat.ne_of_lt hden]

/-- **The binary logarithm of a quotient that is a whole number.** -/
theorem floorLog2_mul {n den : Nat} (hn : 0 < n) (hden : 0 < den) :
    floorLog2 (n * den) den = n.log2 := by
  have hn' := Nat.ne_of_gt hn
  have hden' := Nat.ne_of_gt hden
  have hlow := Nat.log2_self_le hn'
  have hlow' := Nat.log2_self_le hden'
  have hhigh := Nat.lt_log2_self (n := n)
  have hhigh' := Nat.lt_log2_self (n := den)
  have hle : n.log2 + den.log2 ≤ (n * den).log2 := by
    rw [Nat.le_log2 (Nat.mul_ne_zero hn' hden'), Nat.pow_add]
    exact Nat.mul_le_mul hlow hlow'
  have hlt : (n * den).log2 < n.log2 + 1 + (den.log2 + 1) := by
    rw [Nat.log2_lt (Nat.mul_ne_zero hn' hden'), Nat.pow_add]
    exact Nat.mul_lt_mul'' hhigh hhigh'
  -- The guess is right, or one too large.
  obtain ⟨guess, hguess⟩ : ∃ guess : Nat, ((n * den).log2 : Int) - den.log2 = guess :=
    ⟨(n * den).log2 - den.log2, by omega⟩
  have hreached : n * den ≥ den * 2 ^ guess ↔ 2 ^ guess ≤ n := by
    rw [Nat.mul_comm n den]
    exact Nat.mul_le_mul_left_iff hden
  unfold floorLog2
  simp only [hguess, scale_neg_natCast, hreached, ← Nat.le_log2 hn']
  split <;> omega

/-! ## The parts of a double -/

/-- The parts of a finite double that is not negative, out of its bits. -/
theorem ofFloat_ofBits {bits : Nat} (hfinite : bits < 2047 * 2 ^ 52) (hnormal : 2 ^ 52 ≤ bits) :
    Double.ofFloat (Float.ofBits (UInt64.ofNat bits)) =
      .finite false (2 ^ 52 + bits % 2 ^ 52) ((bits / 2 ^ 52 : Nat) - 1075) := by
  have hpow : Nat.pow 2 52 = 4503599627370496 := by decide
  have hpow' : Nat.pow 2 63 = 9223372036854775808 := by decide
  have hsign : (bits / 9223372036854775808 == 1) = false := by
    rw [beq_eq_false_iff_ne]
    omega
  have hbiased : bits / 4503599627370496 % 2048 = bits / 4503599627370496 :=
    Nat.mod_eq_of_lt (by omega)
  unfold Double.ofFloat
  simp only [toBits_ofBits hfinite, hpow, hpow', hsign, hbiased]
  rw [if_neg (by omega), if_neg (by omega)]
  rfl

/-- The parts of a finite double: the mantissa is full, or the exponent is the least. -/
theorem ofFloat_finite {x : Float} {negative : Bool} {mantissa : Nat} {exponent : Int}
    (h : Double.ofFloat x = .finite negative mantissa exponent) :
    mantissa < 2 ^ 53 ∧ (mantissa < 2 ^ 52 → exponent = -1074) := by
  have hpow : Nat.pow 2 52 = 4503599627370496 := by decide
  unfold Double.ofFloat at h
  simp only [hpow] at h
  split at h
  · split at h <;> cases h
  · split at h
    · cases h
      omega
    · cases h
      omega

/-! ## The nearest double -/

/-- The mantissa of a whole number has 53 binary digits. -/
theorem mantissa_bounds {n : Nat} (hn : 0 < n) (hsmall : n < 2 ^ 53) :
    n.log2 ≤ 52 ∧ 2 ^ 52 ≤ n * 2 ^ (52 - n.log2) ∧ n * 2 ^ (52 - n.log2) < 2 ^ 53 := by
  have hn' := Nat.ne_of_gt hn
  have hlog : n.log2 ≤ 52 := by
    have := (Nat.log2_lt hn').mpr hsmall
    omega
  have hlow := Nat.mul_le_mul_right (2 ^ (52 - n.log2)) (Nat.log2_self_le hn')
  have hhigh := Nat.mul_lt_mul_of_pos_right (Nat.lt_log2_self (n := n))
    (Nat.two_pow_pos (52 - n.log2))
  rw [← Nat.pow_add, show n.log2 + (52 - n.log2) = 52 by omega] at hlow
  rw [← Nat.pow_add, show n.log2 + 1 + (52 - n.log2) = 53 by omega] at hhigh
  exact ⟨hlog, hlow, hhigh⟩

theorem nearestBits?_mul {n den : Nat} (hn : 0 < n) (hsmall : n < 2 ^ 53) (hden : 0 < den) :
    nearestBits? (n * den) den =
      some ((n.log2 + 1023) * 2 ^ 52 + (n * 2 ^ (52 - n.log2) - 2 ^ 52)) := by
  obtain ⟨hlog, hlow, hhigh⟩ := mantissa_bounds hn hsmall
  have hpow : Nat.pow 2 52 = 4503599627370496 := by decide
  have hexponent : max ((n.log2 : Int) - 52) (-1074) = -((52 - n.log2 : Nat) : Int) := by omega
  have hscale : n * den * 2 ^ (52 - n.log2) = n * 2 ^ (52 - n.log2) * den := by ring
  unfold nearestBits?
  rw [if_neg (Nat.mul_ne_zero (Nat.ne_of_gt hn) (Nat.ne_of_gt hden)), floorLog2_mul hn hden]
  simp only [hexponent, Int.neg_neg, scale_natCast, hscale, roundQuotient_mul _ hden, hpow]
  have hfull : ¬ n * 2 ^ (52 - n.log2) < 4503599627370496 := by omega
  have hbiased : (-((52 - n.log2 : Nat) : Int) + 1075).toNat = n.log2 + 1023 := by omega
  rw [if_neg hfull, hbiased, if_pos (by omega)]
  rfl

theorem fraction?_real {x : Float} {negative : Bool} {mantissa k : Nat}
    (h : Double.ofFloat x = .finite negative mantissa (-(k : Int))) :
    (Number.real x).fraction? =
      some (if negative then -((mantissa : Rat) / 2 ^ k) else (mantissa : Rat) / 2 ^ k) := by
  unfold Number.fraction? magnitude
  simp only [h, scale_neg_natCast, Nat.one_mul]
  push_cast
  rfl

/-- **A quotient that is a whole number goes to the double that is worth it.** -/
theorem nearest?_mul {n den : Nat} (hn : 0 < n) (hsmall : n < 2 ^ 53) (hden : 0 < den) :
    ∃ x, nearest? false (n * den) den = some x ∧ (Number.real x).fraction? = some (n : Rat) := by
  obtain ⟨hlog, hlow, hhigh⟩ := mantissa_bounds hn hsmall
  have hpower : (2 : Rat) ^ (52 - n.log2) ≠ 0 := pow_ne_zero _ (by decide)
  unfold nearest?
  rw [nearestBits?_mul hn hsmall hden]
  refine ⟨_, rfl, ?_⟩
  generalize hq : n * 2 ^ (52 - n.log2) = q at hlow hhigh
  have hparts : Double.ofFloat
      (Float.ofBits (UInt64.ofNat ((n.log2 + 1023) * 2 ^ 52 + (q - 2 ^ 52)))) =
        .finite false q (-((52 - n.log2 : Nat) : Int)) := by
    have hrest : ((n.log2 + 1023) * 2 ^ 52 + (q - 2 ^ 52)) % 2 ^ 52 = q - 2 ^ 52 := by omega
    have hbiased : ((n.log2 + 1023) * 2 ^ 52 + (q - 2 ^ 52)) / 2 ^ 52 = n.log2 + 1023 := by omega
    have hexponent : ((n.log2 + 1023 : Nat) : Int) - 1075 = -((52 - n.log2 : Nat) : Int) := by omega
    rw [ofFloat_ofBits (by omega) (by omega), hrest, hbiased, hexponent,
      Nat.add_sub_cancel' hlow]
  show (Number.real (Float.ofBits
    (UInt64.ofNat ((n.log2 + 1023) * 2 ^ 52 + (q - 2 ^ 52))))).fraction? = _
  rw [fraction?_real hparts, if_neg Bool.false_ne_true, ← hq]
  push_cast
  rw [mul_div_cancel_right₀ _ hpower]

/-! ## The double of a numeral -/

/-- The value of a numeral with a sign, a mantissa and a power of ten. -/
def decimalValue (negative : Bool) (mantissa : Nat) (exponent : Int) : Rat :=
  (if negative then -1 else 1) * (mantissa * 10 ^ exponent)

/-- A positive numeral that is worth a whole number is a quotient without rest. -/
theorem nat_of_decimalValue {mantissa n : Nat} {exponent : Int}
    (hvalue : decimalValue false mantissa exponent = n) :
    (0 ≤ exponent ∧ mantissa * 10 ^ exponent.toNat = n) ∨
      (exponent < 0 ∧ mantissa = n * 10 ^ (-exponent).toNat) := by
  unfold decimalValue at hvalue
  rw [if_neg Bool.false_ne_true, one_mul] at hvalue
  rcases Int.lt_or_le exponent 0 with hneg | hnonneg
  · obtain ⟨k, rfl⟩ : ∃ k : Nat, exponent = -(k : Int) := ⟨(-exponent).toNat, by omega⟩
    have hpower : (10 : Rat) ^ k ≠ 0 := pow_ne_zero _ (by decide)
    rw [zpow_neg, zpow_natCast, ← div_eq_mul_inv, div_eq_iff hpower] at hvalue
    rw [Int.neg_neg, Int.toNat_natCast]
    exact .inr ⟨hneg, by exact_mod_cast hvalue⟩
  · obtain ⟨k, rfl⟩ := Int.eq_ofNat_of_zero_le hnonneg
    rw [zpow_natCast] at hvalue
    rw [Int.toNat_natCast]
    exact .inl ⟨hnonneg, by exact_mod_cast hvalue⟩

/-- The order of such a numeral is small, however many digits it has. -/
theorem order_bounds {mantissa n : Nat} {exponent : Int} (hpos : 0 < mantissa)
    (hn : n < 10 ^ 15) (hvalue : decimalValue false mantissa exponent = n) :
    1 ≤ ((natDigits mantissa).length : Int) + exponent ∧
      ((natDigits mantissa).length : Int) + exponent ≤ 16 := by
  have hten : ∀ {a b : Nat}, 10 ^ a < 10 ^ b → a < b := (Nat.pow_lt_pow_iff_right (by decide)).mp
  have hlength : 0 < (natDigits mantissa).length := List.length_pos_iff.mpr (natDigits_ne_nil _)
  -- The mantissa lies between two powers of ten, and the number itself below ten to the 15th.
  have hhigh : mantissa < 10 ^ (natDigits mantissa).length :=
    (length_natDigits_le_iff hlength).mp (Nat.le_refl _)
  have hlow : 10 ^ ((natDigits mantissa).length - 1) ≤ mantissa := by
    rcases Nat.lt_or_eq_of_le (Nat.succ_le_of_lt hlength) with hlong | hone
    · exact pow_le_of_length hlong
    · rw [← hone]
      exact hpos
  rcases nat_of_decimalValue hvalue with ⟨hnonneg, hprod⟩ | ⟨hneg, hquot⟩
  -- a whole multiple of the mantissa: the powers of ten add up
  · have hle : 10 ^ ((natDigits mantissa).length - 1 + exponent.toNat) ≤ n := by
      rw [Nat.pow_add, ← hprod]
      exact Nat.mul_le_mul_right _ hlow
    have := hten (Nat.lt_of_le_of_lt hle hn)
    omega
  -- a part of the mantissa: the power that it is divided by bounds it from both sides
  · have hn' : 0 < n := Nat.pos_of_ne_zero fun hzero => by
      rw [hquot, hzero, Nat.zero_mul] at hpos
      exact Nat.lt_irrefl 0 hpos
    have hfew : 10 ^ (-exponent).toNat ≤ mantissa := by
      rw [hquot]
      exact Nat.le_mul_of_pos_left _ hn'
    have hmany : mantissa < 10 ^ (15 + (-exponent).toNat) := by
      rw [hquot, Nat.pow_add]
      exact Nat.mul_lt_mul_of_pos_right hn (Nat.pow_pos (by decide))
    have hmin := hten (Nat.lt_of_le_of_lt hfew hhigh)
    have hmax := hten (Nat.lt_of_le_of_lt hlow hmany)
    omega

/-- Zero keeps its sign, and is worth zero all the same. -/
theorem fraction?_ofDecimal_zero (negative : Bool) (exponent : Int) :
    (Number.real (ofDecimal negative 0 exponent)).fraction? = some 0 := by
  unfold ofDecimal
  simp only [decide_true, Bool.true_or, if_true]
  cases negative with
  | false =>
      have hparts : Double.ofFloat 0 = .finite false 0 (-((1074 : Nat) : Int)) := by rfl
      rw [if_neg Bool.false_ne_true, fraction?_real hparts, if_neg Bool.false_ne_true,
        Nat.cast_zero, zero_div]
  | true =>
      have hparts : Double.ofFloat (Float.ofBits 0x8000000000000000) =
        .finite true 0 (-((1074 : Nat) : Int)) := by rfl
      rw [if_pos rfl, fraction?_real hparts, if_pos rfl, Nat.cast_zero, zero_div, neg_zero]

/-- With a mantissa, a numeral that is worth a whole number has no sign. -/
theorem positive_of_decimalValue {negative : Bool} {mantissa n : Nat} {exponent : Int}
    (hpos : 0 < mantissa) (hvalue : decimalValue negative mantissa exponent = n) :
    negative = false ∧ 0 < n := by
  have hpower : (0 : Rat) < mantissa * 10 ^ exponent :=
    mul_pos (by exact_mod_cast hpos) (zpow_pos (by decide) _)
  unfold decimalValue at hvalue
  cases negative with
  | false =>
      rw [if_neg Bool.false_ne_true, one_mul] at hvalue
      rw [hvalue] at hpower
      exact ⟨rfl, by exact_mod_cast hpower⟩
  | true =>
      have hnonneg : (0 : Rat) ≤ n := Nat.cast_nonneg n
      rw [if_pos rfl] at hvalue
      linarith

/-- **A numeral that is worth a whole number goes to a double that is worth it.** -/
theorem fraction?_ofDecimal {negative : Bool} {mantissa n : Nat} {exponent : Int}
    (hn : n < 10 ^ 15) (hvalue : decimalValue negative mantissa exponent = n) :
    (Number.real (ofDecimal negative mantissa exponent)).fraction? = some (n : Rat) := by
  rcases Nat.eq_zero_or_pos mantissa with rfl | hpos
  · have hzero : (n : Rat) = 0 := by
      unfold decimalValue at hvalue
      rw [← hvalue, Nat.cast_zero, zero_mul, mul_zero]
    rw [hzero]
    exact fraction?_ofDecimal_zero negative exponent
  · obtain ⟨rfl, hn'⟩ := positive_of_decimalValue hpos hvalue
    have hexact : n < 2 ^ 53 := Nat.lt_trans hn (by decide)
    -- The order is within the bounds, so that the quotient is rounded.
    obtain ⟨hlow, hhigh⟩ := order_bounds hpos hn hvalue
    unfold natDigits at hlow hhigh
    unfold ofDecimal
    simp only [Bool.false_eq_true, if_false]
    rw [if_neg (by simp; omega), if_neg (by omega)]
    rcases nat_of_decimalValue hvalue with ⟨hnonneg, hprod⟩ | ⟨hneg, hquot⟩
    · have hprod : mantissa * Nat.pow 10 exponent.toNat = n * 1 := hprod.trans (Nat.mul_one n).symm
      obtain ⟨x, hx, hworth⟩ := nearest?_mul hn' hexact Nat.one_pos
      rw [if_pos hnonneg, hprod, hx]
      exact hworth
    · obtain ⟨den, hden⟩ : ∃ den, den = Nat.pow 10 (-exponent).toNat := ⟨_, rfl⟩
      have hquot : mantissa = n * den := by rw [hden]; exact hquot
      have hpos : 0 < den := by rw [hden]; exact Nat.pow_pos (by decide)
      obtain ⟨x, hx, hworth⟩ := nearest?_mul hn' hexact hpos
      rw [if_neg (Int.not_le.mpr hneg), ← hden, hquot, hx]
      exact hworth

end ReleaseSearch.Decimal
