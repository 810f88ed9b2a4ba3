import Mathlib
import ReleaseSearch.Proofs.Decimal.Nearest

/-!
# Rounding to a double

The results of arithmetic on doubles are rounded in whole numbers: digits are shifted out of a
mantissa, and two more bits remember where the rest stands to a half.  `StandsFor` says which
fraction is meant by a mantissa with these bits, and `Represents` which fraction a finite number in
its canonical form is.  The main statement is that what is rounded so is the nearest value:

    StandsFor (.ofMantissaAndAccuracy m accuracy) x → e ≤ grid (x * 2 ^ e) →
      Represents (roundWithAccuracy .binary64 s m e accuracy) (factor s * nearestValue (x * 2 ^ e))
-/

namespace ReleaseSearch.Decimal

open Float.Model Float.Model.UnpackedFloat

/-! ## Mantissas with further bits -/

/-- The fraction that is meant by a mantissa with its two further bits: they tell on which side of
a half the rest is. -/
structure StandsFor (em : ExtendedMantissa) (x : Rat) : Prop where
  floor : ⌊x⌋ = em.mantissa
  half : em.roundBit = true ↔ 1 / 2 ≤ Int.fract x
  rest : em.stickyBit = true ↔ Int.fract x ≠ 0 ∧ Int.fract x ≠ 1 / 2

theorem standsFor_exact (m : Nat) :
    StandsFor (.ofMantissaAndAccuracy m .exact) (m : Rat) where
  floor := Int.floor_natCast m
  half := by
    rw [Int.fract_natCast]
    exact iff_of_false Bool.false_ne_true (by norm_num)
  rest := by
    rw [Int.fract_natCast]
    exact iff_of_false Bool.false_ne_true fun h => h.1 rfl

section Quotient

variable (a : Nat) {b : Nat} (hb : 0 < b)

theorem floor_quotient (a b : Nat) : ⌊(a : Rat) / b⌋ = (a / b : Nat) := by
  rw [Int.floor_div_natCast, Int.floor_natCast, Int.natCast_div]

include hb

theorem fract_quotient : Int.fract ((a : Rat) / b) = (a % b : Nat) / (b : Rat) := by
  have hb' : (b : Rat) ≠ 0 := by exact_mod_cast Nat.ne_of_gt hb
  have hdiv : (a : Rat) = b * (a / b : Nat) + (a % b : Nat) := by
    exact_mod_cast (Nat.div_add_mod a b).symm
  rw [← Int.self_sub_floor, floor_quotient, Int.cast_natCast, div_sub' hb', div_left_inj' hb']
  linarith

theorem half_le_fract_quotient : 1 / 2 ≤ Int.fract ((a : Rat) / b) ↔ b ≤ 2 * (a % b) := by
  rw [fract_quotient a hb, div_le_div_iff₀ two_pos (by exact_mod_cast hb), one_mul, mul_comm]
  exact_mod_cast Iff.rfl

theorem fract_quotient_eq_half : Int.fract ((a : Rat) / b) = 1 / 2 ↔ 2 * (a % b) = b := by
  rw [fract_quotient a hb, div_eq_div_iff (by exact_mod_cast Nat.ne_of_gt hb) two_ne_zero, one_mul,
    mul_comm]
  exact_mod_cast Iff.rfl

theorem fract_quotient_eq_zero : Int.fract ((a : Rat) / b) = 0 ↔ a % b = 0 := by
  rw [fract_quotient a hb, div_eq_zero_iff, or_iff_left (by exact_mod_cast Nat.ne_of_gt hb),
    Nat.cast_eq_zero]

/-- A quotient, and what its remainder says of the rest. -/
theorem standsFor_quotient :
    StandsFor (.ofMantissaAndAccuracy (a / b) (accuracyOfFraction (a % b) b)) ((a : Rat) / b) := by
  have hhalf := half_le_fract_quotient a hb
  have hrest : Int.fract ((a : Rat) / b) ≠ 0 ∧ Int.fract ((a : Rat) / b) ≠ 1 / 2 ↔
      a % b ≠ 0 ∧ 2 * (a % b) ≠ b :=
    and_congr (not_congr (fract_quotient_eq_zero a hb)) (not_congr (fract_quotient_eq_half a hb))
  unfold accuracyOfFraction
  by_cases hzero : a % b = 0
  · rw [if_pos hzero]
    refine ⟨floor_quotient a b, Iff.trans ?_ hhalf.symm, Iff.trans ?_ hrest.symm⟩
    · exact iff_of_false Bool.false_ne_true (by omega)
    · exact iff_of_false Bool.false_ne_true (by omega)
  · -- The remainder is compared with half the divisor.
    rw [if_neg hzero]
    rcases lt_trichotomy (2 * (a % b)) b with hlt | heq | hgt
    · rw [compare_lt_iff_lt.mpr hlt]
      refine ⟨floor_quotient a b, Iff.trans ?_ hhalf.symm, Iff.trans ?_ hrest.symm⟩
      · exact iff_of_false Bool.false_ne_true (by omega)
      · exact iff_of_true rfl (by omega)
    · rw [compare_eq_iff_eq.mpr heq]
      refine ⟨floor_quotient a b, Iff.trans ?_ hhalf.symm, Iff.trans ?_ hrest.symm⟩
      · exact iff_of_true rfl (by omega)
      · exact iff_of_false Bool.false_ne_true (by omega)
    · rw [compare_gt_iff_gt.mpr hgt]
      refine ⟨floor_quotient a b, Iff.trans ?_ hhalf.symm, Iff.trans ?_ hrest.symm⟩
      · exact iff_of_true rfl (by omega)
      · exact iff_of_true rfl (by omega)

end Quotient

namespace StandsFor

variable {em : ExtendedMantissa} {x : Rat}

/-- A digit that is shifted out goes into the bits. -/
theorem shiftRightOne (h : StandsFor em x) : StandsFor em.shiftRightOne (x / 2) := by
  have hfloor : ⌊x / 2⌋ = (em.mantissa / 2 : Nat) := by
    have hdiv : ⌊x / (2 : Nat)⌋ = ⌊x⌋ / (2 : Nat) := Int.floor_div_natCast x 2
    rw [h.floor] at hdiv
    exact_mod_cast hdiv
  have hdigit : (em.mantissa : Rat) = 2 * (em.mantissa / 2 : Nat) + (em.mantissa % 2 : Nat) := by
    exact_mod_cast (Nat.div_add_mod em.mantissa 2).symm
  have hfract : Int.fract (x / 2) = (Int.fract x + (em.mantissa % 2 : Nat)) / 2 := by
    rw [← Int.self_sub_floor, ← Int.self_sub_floor, hfloor, h.floor, Int.cast_natCast,
      Int.cast_natCast]
    linarith
  have hlow := Int.fract_nonneg x
  have hhigh := Int.fract_lt_one x
  have hrest : (em.roundBit || em.stickyBit) = true ↔ Int.fract x ≠ 0 := by
    rw [Bool.or_eq_true, h.half, h.rest]
    constructor
    · rintro (hhalf | hrest)
      · exact ((by norm_num : (0 : Rat) < 1 / 2).trans_le hhalf).ne'
      · exact hrest.1
    · intro hne
      rcases eq_or_ne (Int.fract x) (1 / 2) with heq | hne'
      · exact .inl heq.ge
      · exact .inr ⟨hne, hne'⟩
  -- The digit that goes decides on which side of a half the new rest is.
  rcases Nat.mod_two_eq_zero_or_one em.mantissa with hbit | hbit
  · rw [hbit, Nat.cast_zero, add_zero] at hfract
    refine ⟨hfloor, ?_, ?_⟩
    · rw [hfract]
      exact iff_of_false (by simp [ExtendedMantissa.shiftRightOne, hbit]) (by linarith)
    · rw [hfract]
      refine hrest.trans ⟨fun hne => ⟨by simpa using hne, by linarith⟩, fun hne => ?_⟩
      simpa using hne.1
  · rw [hbit, Nat.cast_one] at hfract
    refine ⟨hfloor, ?_, ?_⟩
    · rw [hfract]
      exact iff_of_true (by simp [ExtendedMantissa.shiftRightOne, hbit]) (by linarith)
    · rw [hfract]
      refine hrest.trans ⟨fun hne => ⟨by linarith, fun heq => hne (by linarith)⟩, fun hne heq => ?_⟩
      exact hne.2 (by rw [heq, zero_add])

theorem shiftRight (h : StandsFor em x) (k : Nat) : StandsFor (em >>> k) (x / 2 ^ k) := by
  show StandsFor (k.repeat ExtendedMantissa.shiftRightOne em) (x / 2 ^ k)
  induction k with
  | zero => simpa [Nat.repeat] using h
  | succ k ih =>
      rw [pow_succ, ← div_div]
      exact ih.shiftRightOne

/-- Rounding looks at nothing but the bits. -/
theorem roundedMantissa (h : StandsFor em x) : (em.roundedMantissa : Int) = nearestWhole x := by
  obtain ⟨m, roundBit, stickyBit⟩ := em
  obtain ⟨hfloor, hhalf, hrest⟩ := h
  unfold nearestWhole
  rw [hfloor]
  cases roundBit with
  | false =>
      -- below the middle: down
      have hlt : Int.fract x < 1 / 2 := by simpa using hhalf
      rw [if_pos hlt]
      cases stickyBit <;> rfl
  | true =>
      have hle : 1 / 2 ≤ Int.fract x := hhalf.mp rfl
      rw [if_neg hle.not_gt]
      cases stickyBit with
      | false =>
          -- exactly in the middle: to the even neighbour
          have heq : Int.fract x = 1 / 2 := by
            by_contra hne
            have hpos : 0 < Int.fract x := (by norm_num : (0 : Rat) < 1 / 2).trans_le hle
            exact Bool.false_ne_true (hrest.mpr ⟨hpos.ne', hne⟩)
          rw [if_pos heq]
          rfl
      | true =>
          rw [if_neg (hrest.mp rfl).2]
          rfl

end StandsFor

/-! ## Canonical numbers -/

def factor : Sign → Rat
  | .negative => -1
  | .positive => 1

theorem factor_apply (s : Sign) (n : Int) : ((s.apply n : Int) : Rat) = factor s * n := by
  cases s <;> simp [Sign.apply, factor]

/-- The fraction that a finite number is, if its form is the canonical one: a mantissa of 53 binary
digits, or of fewer with the least exponent. -/
inductive Represents : UnpackedFloat → Rat → Prop
  | zero (s : Sign) {v : Rat} (hv : v = 0) : Represents (.zero s) v
  | finite (s : Sign) {m : Nat} {e : Int} (hpos : 0 < m) (hm : m < 2 ^ 53) (he : -1074 ≤ e)
      (hfull : 2 ^ 52 ≤ m ∨ e = -1074) {v : Rat} (hv : v = factor s * (m * 2 ^ e)) :
      Represents (.finite s m e hpos) v

theorem Represents.unique {f : UnpackedFloat} {v w : Rat} (h : Represents f v)
    (h' : Represents f w) : v = w := by
  cases h with
  | zero s hv =>
      cases h' with
      | zero _ hw => rw [hv, hw]
  | finite s hpos hm he hfull hv =>
      cases h' with
      | finite _ _ _ _ _ hw => rw [hv, hw]

/-! ## The exponent that is aimed at -/

theorem targetExponent_eq (t : Int) : Format.binary64.targetExponent t = max (t - 53) (-1074) := rfl

/-- The binary logarithm is read off the whole part. -/
theorem log_eq {m : Nat} {x : Rat} (hfloor : ⌊x⌋ = m) (hm : 0 < m) (e : Int) :
    Int.log 2 (x * 2 ^ e) = m.log2 + e := by
  have hle : (m : Rat) ≤ x := by exact_mod_cast hfloor ▸ Int.floor_le x
  have hlt : x < m + 1 := by exact_mod_cast hfloor ▸ Int.lt_floor_add_one x
  have hpos : 0 < x * 2 ^ e := by
    have hx : 0 < x := (Nat.cast_pos.mpr hm).trans_le hle
    positivity
  have hlow : ((2 : Nat) : Rat) ^ ((m.log2 : Int) + e) ≤ x * 2 ^ e := by
    rw [zpow_add₀ (by norm_num), zpow_natCast]
    refine mul_le_mul_of_nonneg_right (le_trans ?_ hle) (by positivity)
    exact_mod_cast Nat.log2_self_le (Nat.ne_of_gt hm)
  have hhigh : x * 2 ^ e < ((2 : Nat) : Rat) ^ ((m.log2 : Int) + e + 1) := by
    rw [show (m.log2 : Int) + e + 1 = ((m.log2 + 1 : Nat) : Int) + e by push_cast; ring,
      zpow_add₀ (by norm_num), zpow_natCast]
    refine mul_lt_mul_of_pos_right (hlt.trans_le ?_) (by positivity)
    exact_mod_cast Nat.lt_log2_self (n := m)
  have hlow := (Int.zpow_le_iff_le_log (by decide : 1 < 2) hpos).mp hlow
  have hhigh := (Int.lt_zpow_iff_log_lt (by decide : 1 < 2) hpos).mp hhigh
  omega

/-- **The exponent that is aimed at** is that of the grid. -/
theorem targetExponent_of_pos {m : Nat} {x : Rat} (hfloor : ⌊x⌋ = m) (hm : 0 < m) (e : Int) :
    Format.binary64.targetExponent (totalExponent m e) = grid (x * 2 ^ e) := by
  have hlog := log_eq hfloor hm e
  rw [targetExponent_eq]
  unfold totalExponent grid
  omega

/-- So it is without a whole part, if the grid is not finer than the exponent. -/
theorem targetExponent_of_le {m : Nat} {e : Int} {x : Rat} (hfloor : ⌊x⌋ = m) (hx : 0 < x)
    (he : e ≤ grid (x * 2 ^ e)) :
    Format.binary64.targetExponent (totalExponent m e) = grid (x * 2 ^ e) := by
  rcases Nat.eq_zero_or_pos m with rfl | hm
  · -- There are no digits left, and so the grid is the finest one.
    have hlt : x * 2 ^ e < ((2 : Nat) : Rat) ^ e := by
      have hlt : x < 1 := by
        have := Int.lt_floor_add_one x
        rwa [hfloor, Nat.cast_zero, Int.cast_zero, zero_add] at this
      exact mul_lt_of_lt_one_left (by positivity) hlt
    have hlog := (Int.lt_zpow_iff_log_lt (by decide : 1 < 2) (by positivity)).mp hlt
    rw [targetExponent_eq]
    unfold totalExponent
    unfold grid at he ⊢
    simp only [Nat.log2_zero]
    omega
  · exact targetExponent_of_pos hfloor hm e

/-! ## Rounding -/

/-- A number with a sign, a mantissa and an exponent. -/
def ofParts (s : Sign) (m : Nat) (e : Int) : UnpackedFloat :=
  if h : m = 0 then .zero s else .finite s m e (Nat.pos_of_ne_zero h)

theorem represents_ofParts {m : Nat} {e : Int} (s : Sign) (hm : m < 2 ^ 53) (he : -1074 ≤ e)
    (hfull : 2 ^ 52 ≤ m ∨ e = -1074) : Represents (ofParts s m e) (factor s * (m * 2 ^ e)) := by
  unfold ofParts
  by_cases hzero : m = 0
  · rw [dif_pos hzero]
    exact .zero s (by simp [hzero])
  · rw [dif_neg hzero]
    exact .finite s _ hm he hfull rfl

theorem shiftToExponent_of_le {m : Nat} {e t : Int} (accuracy : Accuracy) (h : e ≤ t) :
    shiftToExponent m e accuracy t =
      (ExtendedMantissa.ofMantissaAndAccuracy m accuracy >>> (t - e).toNat, t) := by
  have hexponent : e + ((t - e).toNat : Int) = t := by omega
  unfold shiftToExponent
  simp only [hexponent]

/-- Rounding shifts, rounds, and shifts once more as the mantissa may have got longer. -/
theorem roundWithAccuracy_eq {m q : Nat} {e g : Int} {accuracy : Accuracy}
    (htarget : Format.binary64.targetExponent (totalExponent m e) = g) (he : e ≤ g)
    (hq : (ExtendedMantissa.ofMantissaAndAccuracy m accuracy >>> (g - e).toNat).roundedMantissa = q)
    (s : Sign) :
    roundWithAccuracy .binary64 s m e accuracy =
      ofParts s (shiftToTargetExponent .binary64 q g .exact).1.mantissa
        (shiftToTargetExponent .binary64 q g .exact).2 := by
  have hfirst : shiftToTargetExponent .binary64 m e accuracy =
      (ExtendedMantissa.ofMantissaAndAccuracy m accuracy >>> (g - e).toNat, g) := by
    unfold shiftToTargetExponent
    rw [htarget, shiftToExponent_of_le accuracy he]
  have hparts : roundWithAccuracy .binary64 s m e accuracy =
      ofParts s
        (shiftToTargetExponent .binary64
          (shiftToTargetExponent .binary64 m e accuracy).1.roundedMantissa
          (shiftToTargetExponent .binary64 m e accuracy).2 .exact).1.mantissa
        (shiftToTargetExponent .binary64
          (shiftToTargetExponent .binary64 m e accuracy).1.roundedMantissa
          (shiftToTargetExponent .binary64 m e accuracy).2 .exact).2 := rfl
  rw [hparts, hfirst, hq]

/-- The second shift does nothing, or takes one digit of a power of two. -/
theorem represents_shifted {q : Nat} {g : Int} (hq : q ≤ 2 ^ 53) (hg : -1074 ≤ g)
    (hfull : 2 ^ 52 ≤ q ∨ g = -1074) (s : Sign) :
    Represents (ofParts s (shiftToTargetExponent .binary64 q g .exact).1.mantissa
      (shiftToTargetExponent .binary64 q g .exact).2) (factor s * (q * 2 ^ g)) := by
  unfold shiftToTargetExponent totalExponent
  rw [targetExponent_eq]
  rcases hq.lt_or_eq with hlt | rfl
  · have hlog : q.log2 ≤ 52 := by
      rcases Nat.eq_zero_or_pos q with rfl | hpos
      · decide
      · exact Nat.lt_succ_iff.mp ((Nat.log2_lt (Nat.ne_of_gt hpos)).mpr hlt)
    -- the mantissa fits as it is
    have hshift : (max ((q.log2 : Int) + 1 + g - 53) (-1074) - g).toNat = 0 := by omega
    unfold shiftToExponent
    simp only [hshift, Nat.cast_zero, add_zero]
    exact represents_ofParts s hlt hg hfull
  -- rounding up reached the next power of two: one place is shifted out, and it is empty
  · have hlog : (2 ^ 53 : Nat).log2 = 53 := Nat.log2_two_pow
    have hshift : max (((2 ^ 53 : Nat).log2 : Int) + 1 + g - 53) (-1074) = g + 1 := by omega
    have hvalue : ((2 ^ 53 : Nat) : Rat) * 2 ^ g = (2 ^ 52 : Nat) * 2 ^ (g + 1) := by
      rw [zpow_add_one₀ two_ne_zero]
      push_cast
      ring
    have hhalf : (ExtendedMantissa.ofMantissaAndAccuracy (2 ^ 53) .exact >>> 1).mantissa = 2 ^ 52 :=
      rfl
    rw [hshift, shiftToExponent_of_le .exact (by omega), hvalue,
      show (g + 1 - g).toNat = 1 by omega]
    simp only [hhalf]
    exact represents_ofParts s (by decide) (by omega) (.inl le_rfl)

/-- **Rounding gives the nearest value**, if no digits have to be made up. -/
theorem represents_roundWithAccuracy {m : Nat} {e : Int} {accuracy : Accuracy} {x : Rat}
    (h : StandsFor (.ofMantissaAndAccuracy m accuracy) x) (hx : 0 < x) (he : e ≤ grid (x * 2 ^ e))
    (s : Sign) :
    Represents (roundWithAccuracy .binary64 s m e accuracy)
      (factor s * nearestValue (x * 2 ^ e)) := by
  have hfloor : ⌊x⌋ = m := by
    rw [h.floor]
    cases accuracy with
    | exact => rfl
    | inexact order => cases order <;> rfl
  have hpos : 0 < x * 2 ^ e := by positivity
  -- The mantissa is moved down by as many places as the grid lies above its exponent.
  obtain ⟨k, hk⟩ := Int.eq_ofNat_of_zero_le (Int.sub_nonneg.mpr he)
  have hscaled : x / 2 ^ k = x * 2 ^ e / 2 ^ grid (x * 2 ^ e) := by
    rw [show grid (x * 2 ^ e) = e + k by omega, zpow_add₀ two_ne_zero, zpow_natCast]
    field_simp
  obtain ⟨q, hq⟩ : ∃ q,
      (ExtendedMantissa.ofMantissaAndAccuracy m accuracy >>>
        (grid (x * 2 ^ e) - e).toNat).roundedMantissa = q := ⟨_, rfl⟩
  have hrounded : (q : Int) = nearestWhole (x * 2 ^ e / 2 ^ grid (x * 2 ^ e)) := by
    rw [← hq, (h.shiftRight _).roundedMantissa, hk, Int.toNat_natCast, hscaled]
  obtain ⟨hle, hfull, hvalue⟩ := nearestValue_mantissa hpos hrounded
  rw [roundWithAccuracy_eq (targetExponent_of_le hfloor hx he) he hq, hvalue]
  exact represents_shifted hle (finest_le_grid _) hfull s

/-- Rounding an exact number makes up digits if there are too few. -/
theorem represents_round {m : Nat} (hm : 0 < m) (e : Int) (s : Sign) :
    Represents (UnpackedFloat.round .binary64 s m e) (factor s * nearestValue (m * 2 ^ e)) := by
  -- With further zeros the exponent is not above the grid.
  obtain ⟨k, hk⟩ : ∃ k : Nat, (e - grid (m * 2 ^ e)).toNat = k := ⟨_, rfl⟩
  have hvalue : (m : Rat) * 2 ^ e = (m * 2 ^ k : Nat) * 2 ^ (e - k) := by
    rw [zpow_sub₀ two_ne_zero, zpow_natCast]
    push_cast
    field_simp
  have htarget := targetExponent_of_pos (Int.floor_natCast m) hm e
  unfold UnpackedFloat.round decreaseExponent
  simp only [htarget, hk, Nat.shiftLeft_eq]
  rw [hvalue]
  exact represents_roundWithAccuracy (standsFor_exact _) (by positivity) (by rw [← hvalue]; omega) s

end ReleaseSearch.Decimal
