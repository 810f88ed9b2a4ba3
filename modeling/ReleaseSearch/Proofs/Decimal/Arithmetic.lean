import ReleaseSearch.Proofs.Decimal.Worth

/-!
# Arithmetic on doubles

The sum, the difference, the product and the quotient of doubles are worth the value that is nearest
to the exact one, as long as it is not too large:

    IsWorth x a → IsWorth y b → |nearest (a + b)| < beyond → IsWorth (x + y) (nearest (a + b))
-/

namespace ReleaseSearch.Decimal

open Float.Model hiding pack unpack add sub mul div neg
open Float.Model.UnpackedFloat

/-! ## Signs -/

theorem factor_mul (s s' : Sign) : factor (s * s') = factor s * factor s' := by
  cases s <;> cases s' <;> simp [factor]

theorem factor_div (s s' : Sign) : factor (s / s') = factor s * factor s' := factor_mul s s'

theorem factor_div_factor (s s' : Sign) : factor s / factor s' = factor s * factor s' := by
  cases s' <;> simp only [factor, div_one, mul_one, div_neg, mul_neg]

theorem factor_neg (s : Sign) : factor (-s) = -factor s := by
  cases s <;> simp [factor]

theorem nearest_factor_mul (s : Sign) {v : Rat} (hv : 0 ≤ v) :
    nearest (factor s * v) = factor s * nearestValue v := by
  cases s with
  | negative => rw [factor, neg_one_mul, neg_one_mul, nearest_neg, nearest_of_nonneg hv]
  | positive => rw [factor, one_mul, one_mul, nearest_of_nonneg hv]

/-! ## Results -/

section Results

variable {f g : UnpackedFloat} {a b : Rat}

/-- A number is its own nearest value. -/
theorem nearest_of_represents (hf : Represents f a) : nearest a = a := by
  cases hf with
  | zero s hv =>
      subst hv
      rw [nearest_of_nonneg le_rfl, nearestValue_zero]
  | finite s hpos hm he hfull hv =>
      subst hv
      rw [nearest_factor_mul s (by positivity), nearestValue_eq_self hm he]

theorem IsWorth.nearestValue_self {x : Float} {v : Rat} (h : IsWorth x v) (hv : 0 ≤ v) :
    nearestValue v = v := by
  rw [← nearest_of_nonneg hv, nearest_of_represents h]

/-- What a double is a bound of is not rounded beyond it. -/
theorem IsWorth.le_nearestValue {x : Float} {v w : Rat} (h : IsWorth x v) (hv : 0 ≤ v)
    (hle : v ≤ w) : v ≤ nearestValue w :=
  (h.nearestValue_self hv).symm.trans_le (nearestValue_mono hv hle)

theorem IsWorth.nearestValue_le {x : Float} {v w : Rat} (h : IsWorth x v) (hw : 0 ≤ w)
    (hle : w ≤ v) : nearestValue w ≤ v :=
  (nearestValue_mono hw hle).trans_eq (h.nearestValue_self (hw.trans hle))

theorem represents_neg (hf : Represents f a) : Represents f.neg (-a) := by
  cases hf with
  | zero s hv => exact .zero (-s) (by rw [hv, neg_zero])
  | finite s hpos hm he hfull hv =>
      exact .finite (-s) hpos hm he hfull (by rw [hv, factor_neg, neg_mul])

theorem represents_normalize (n e : Int) :
    Represents (UnpackedFloat.normalize .binary64 n e .positive) (nearest (n * 2 ^ e)) := by
  unfold UnpackedFloat.normalize
  -- below zero, zero and above zero, as the definition splits it
  rcases lt_trichotomy n 0 with h | rfl | h
  · have hpos : 0 < (-n).toNat := by omega
    have hvalue : (n : Rat) * 2 ^ e = factor .negative * ((-n).toNat * 2 ^ e) := by
      have hcast : (((-n).toNat : Int) : Rat) = (-n : Int) := by rw [Int.toNat_of_nonneg (by omega)]
      rw [Int.cast_natCast] at hcast
      rw [hcast, factor]
      push_cast
      ring
    rw [compare_lt_iff_lt.mpr h, hvalue, nearest_factor_mul _ (by positivity)]
    exact represents_round hpos e .negative
  · rw [compare_eq_iff_eq.mpr rfl]
    exact .zero .positive (by simp [nearest])
  · have hpos : 0 < n.toNat := by omega
    have hvalue : (n : Rat) * 2 ^ e = factor .positive * (n.toNat * 2 ^ e) := by
      have hcast : ((n.toNat : Int) : Rat) = n := by rw [Int.toNat_of_nonneg (by omega)]
      rw [Int.cast_natCast] at hcast
      rw [hcast, factor, one_mul]
    rw [compare_gt_iff_gt.mpr h, hvalue, nearest_factor_mul _ (by positivity)]
    exact represents_round hpos e .positive

theorem decreaseExponent_mul {m : Nat} {e t : Int} (h : t ≤ e) :
    ((decreaseExponent m e t).1 : Rat) * 2 ^ t = m * 2 ^ e := by
  obtain ⟨k, hk⟩ := Int.eq_ofNat_of_zero_le (Int.sub_nonneg.mpr h)
  have hshift : (decreaseExponent m e t).1 = m * 2 ^ k := by
    unfold decreaseExponent
    simp only [hk, Int.toNat_natCast, Nat.shiftLeft_eq]
  rw [hshift, show e = t + k by omega, zpow_add₀ two_ne_zero, zpow_natCast]
  push_cast
  ring

theorem represents_add (hf : Represents f a) (hg : Represents g b) :
    Represents (add .binary64 f g) (nearest (a + b)) := by
  -- A zero on either side leaves the other number, which is its own nearest double.
  cases hf with
  | zero s hv =>
      subst hv
      rw [zero_add, nearest_of_represents hg]
      cases hg with
      | zero s' hv' =>
          unfold add
          dsimp only
          split
          · exact .zero s hv'
          · exact .zero .positive hv'
      | finite s' hpos' hm' he' hfull' hv' => exact .finite s' hpos' hm' he' hfull' hv'
  | @finite s m e hpos hm he hfull _ hv =>
      cases hg with
      | zero s' hv' =>
          rw [hv', add_zero, nearest_of_represents (.finite s hpos hm he hfull hv)]
          exact .finite s hpos hm he hfull hv
      | @finite s' m' e' hpos' hm' he' hfull' _ hv' =>
          -- both mantissas on the grid of the smaller exponent, where nothing is lost
          have hvalue : a + b =
              ((s.apply (decreaseExponent m e (min e e')).1 +
                s'.apply (decreaseExponent m' e' (min e e')).1 : Int) : Rat) * 2 ^ min e e' := by
            rw [Int.cast_add, factor_apply, factor_apply, Int.cast_natCast, Int.cast_natCast,
              add_mul, mul_assoc, mul_assoc, decreaseExponent_mul (min_le_left _ _),
              decreaseExponent_mul (min_le_right _ _), hv, hv']
          rw [hvalue]
          exact represents_normalize _ _

/-- A difference is a sum with what is opposite. -/
theorem sub_eq_add_neg' (f g : UnpackedFloat) : sub .binary64 f g = add .binary64 f g.neg := by
  cases f with
  | notANumber => rfl
  | infinity s => cases g <;> rfl
  | zero s => cases g <;> rfl
  | finite s m e hpos =>
      cases g with
      | finite s' m' e' hpos' =>
          have hneg (n : Int) : (-s').apply n = -s'.apply n := by
            cases s' <;> simp [Sign.apply]
          unfold sub add neg
          dsimp only
          rw [hneg, Int.sub_eq_add_neg]
      | _ => rfl

theorem represents_sub (hf : Represents f a) (hg : Represents g b) :
    Represents (sub .binary64 f g) (nearest (a - b)) := by
  rw [sub_eq_add_neg', sub_eq_add_neg]
  exact represents_add hf (represents_neg hg)

/-- A product of mantissas has enough digits. -/
theorem add_le_grid {m m' : Nat} {e e' : Int} (hpos : 0 < m * m')
    (hfull : 2 ^ 52 ≤ m ∨ e = -1074) (hfull' : 2 ^ 52 ≤ m' ∨ e' = -1074) :
    e + e' ≤ grid ((m * m' : Nat) * 2 ^ (e + e')) := by
  have hlog := log_eq (Int.floor_natCast (m * m')) hpos (e + e')
  have hlong (h : 2 ^ 52 ≤ m * m') : 52 ≤ (m * m').log2 :=
    (Nat.le_log2 (Nat.ne_of_gt hpos)).mpr h
  unfold grid
  rw [hlog]
  rcases hfull with hm | he
  · have := hlong (hm.trans (Nat.le_mul_of_pos_right m (Nat.pos_of_mul_pos_left hpos)))
    omega
  · rcases hfull' with hm' | he'
    · have := hlong (hm'.trans (Nat.le_mul_of_pos_left m' (Nat.pos_of_mul_pos_right hpos)))
      omega
    · omega

theorem represents_mul (hf : Represents f a) (hg : Represents g b) :
    Represents (mul .binary64 f g) (nearest (a * b)) := by
  have hzero : nearest 0 = 0 := by rw [nearest_of_nonneg le_rfl, nearestValue_zero]
  cases hf with
  | zero s hv =>
      rw [hv, zero_mul, hzero]
      cases hg with
      | zero s' hv' => exact .zero (s * s') rfl
      | finite s' hpos' hm' he' hfull' hv' => exact .zero (s * s') rfl
  | @finite s m e hpos hm he hfull _ hv =>
      cases hg with
      | zero s' hv' =>
          rw [hv', mul_zero, hzero]
          exact .zero (s * s') rfl
      | @finite s' m' e' hpos' hm' he' hfull' _ hv' =>
          -- only for two numbers that are not zero is there anything to round
          have hvalue : a * b = factor (s * s') * ((m * m' : Nat) * 2 ^ (e + e')) := by
            rw [hv, hv', factor_mul, zpow_add₀ two_ne_zero]
            push_cast
            ring
          rw [hvalue, nearest_factor_mul _ (by positivity)]
          have hprod : 0 < m * m' := Nat.mul_pos hpos hpos'
          exact represents_roundWithAccuracy (standsFor_exact _) (by exact_mod_cast hprod)
            (add_le_grid hprod hfull hfull') (s * s')

theorem mul_infinity (hg : Represents g b) (hb : 0 < b) :
    mul .binary64 (.infinity .positive) g = .infinity .positive := by
  cases hg with
  | zero s hzero => exact absurd hzero hb.ne'
  | @finite s m e hpos hm he hfull _ hvalue =>
      cases s with
      | positive => rfl
      | negative =>
          have hnonneg : (0 : Rat) ≤ m * 2 ^ e := by positivity
          rw [hvalue, factor] at hb
          linarith

/-- A quotient of mantissas is computed with enough digits. -/
theorem quotient_le_grid {m m' : Nat} {e e' : Int} (hpos : 0 < m) (hpos' : 0 < m') :
    Format.binary64.targetExponent (totalExponent m e - totalExponent m' e') ≤
      grid ((m * 2 ^ e) / (m' * 2 ^ e')) := by
  have hlog := log_eq (Int.floor_natCast m) hpos e
  have hlog' := log_eq (Int.floor_natCast m') hpos' e'
  have hquotient := (log_div_bounds (a := m * 2 ^ e) (b := m' * 2 ^ e') (by positivity)
    (by positivity)).1
  rw [targetExponent_eq]
  unfold totalExponent grid
  omega

theorem represents_div (hf : Represents f a) (hg : Represents g b) (hb : b ≠ 0) :
    Represents (div .binary64 f g) (nearest (a / b)) := by
  have hzero : nearest 0 = 0 := by rw [nearest_of_nonneg le_rfl, nearestValue_zero]
  cases hg with
  | zero s' hv' => exact absurd hv' hb
  | @finite s' m' e' hpos' hm' he' hfull' _ hv' =>
      cases hf with
      | zero s hv =>
          rw [hv, zero_div, hzero]
          exact .zero (s / s') rfl
      | @finite s m e hpos hm he hfull _ hv =>
          obtain ⟨t, ht⟩ : ∃ t, min (e - e')
              (Format.binary64.targetExponent (totalExponent m e - totalExponent m' e')) = t :=
            ⟨_, rfl⟩
          -- The dividend gets as many digits as the quotient needs.
          obtain ⟨k, hk⟩ := Int.eq_ofNat_of_zero_le (show 0 ≤ e - e' - t by omega)
          have hpos'' : (0 : Rat) < m' := by exact_mod_cast hpos'
          have hquotient : (m * 2 ^ e : Rat) / (m' * 2 ^ e') =
              ((m * 2 ^ k : Nat) : Rat) / m' * 2 ^ t := by
            have hexponent : (2 : Rat) ^ e = 2 ^ k * 2 ^ t * 2 ^ e' := by
              rw [← zpow_natCast, ← zpow_add₀ two_ne_zero, ← zpow_add₀ two_ne_zero]
              congr 1
              omega
            rw [hexponent]
            push_cast
            field_simp
          have hvalue : a / b = factor (s / s') * ((m * 2 ^ e) / (m' * 2 ^ e')) := by
            rw [hv, hv', factor_div, ← factor_div_factor]
            exact mul_div_mul_comm _ _ _ _
          have hdiv : div .binary64 (.finite s m e hpos) (.finite s' m' e' hpos') =
              roundWithAccuracy .binary64 (s / s') ((m * 2 ^ k) / m') t
                (accuracyOfFraction ((m * 2 ^ k) % m') m') := by
            unfold div divCore
            simp only [ht, hk, Int.toNat_natCast, Nat.shiftLeft_eq]
          rw [hdiv, hvalue, nearest_factor_mul _ (by positivity), hquotient]
          refine represents_roundWithAccuracy (standsFor_quotient _ hpos') (by positivity) ?_ _
          rw [← hquotient]
          exact (ht ▸ min_le_right _ _ : t ≤ _).trans (quotient_le_grid hpos hpos')

end Results

/-! ## Doubles -/

section Doubles

variable {x y : Float} {a b : Rat}

theorem unpack_add (x y : Float) :
    (x + y).toModel.unpack =
      unpack .binary64 (pack .binary64 (add .binary64 x.toModel.unpack y.toModel.unpack)) := rfl

theorem unpack_sub (x y : Float) :
    (x - y).toModel.unpack =
      unpack .binary64 (pack .binary64 (sub .binary64 x.toModel.unpack y.toModel.unpack)) := rfl

theorem unpack_mul (x y : Float) :
    (x * y).toModel.unpack =
      unpack .binary64 (pack .binary64 (mul .binary64 x.toModel.unpack y.toModel.unpack)) := rfl

theorem unpack_div (x y : Float) :
    (x / y).toModel.unpack =
      unpack .binary64 (pack .binary64 (div .binary64 x.toModel.unpack y.toModel.unpack)) := rfl

/-- A result that is packed is worth the same, if it is not too large. -/
theorem isWorth_pack {f : UnpackedFloat} (h : Represents f a) (hlt : |a| < beyond) :
    Represents (unpack .binary64 (pack .binary64 f)) a := by
  rwa [unpack_pack h hlt]

theorem IsWorth.add (hx : IsWorth x a) (hy : IsWorth y b) (hlt : |nearest (a + b)| < beyond) :
    IsWorth (x + y) (nearest (a + b)) := isWorth_pack (represents_add hx hy) hlt

theorem IsWorth.sub (hx : IsWorth x a) (hy : IsWorth y b) (hlt : |nearest (a - b)| < beyond) :
    IsWorth (x - y) (nearest (a - b)) := isWorth_pack (represents_sub hx hy) hlt

theorem IsWorth.mul (hx : IsWorth x a) (hy : IsWorth y b) (hlt : |nearest (a * b)| < beyond) :
    IsWorth (x * y) (nearest (a * b)) := isWorth_pack (represents_mul hx hy) hlt

theorem IsWorth.div (hx : IsWorth x a) (hy : IsWorth y b) (hb : b ≠ 0)
    (hlt : |nearest (a / b)| < beyond) : IsWorth (x / y) (nearest (a / b)) :=
  isWorth_pack (represents_div hx hy hb) hlt

/-- A sum that is too large is infinite. -/
theorem IsWorth.add_overflow (hx : IsWorth x a) (hy : IsWorth y b)
    (hle : beyond ≤ nearest (a + b)) : IsEndless (x + y) :=
  unpack_pack_of_le (represents_add hx hy) hle

theorem IsWorth.mul_overflow (hx : IsWorth x a) (hy : IsWorth y b)
    (hle : beyond ≤ nearest (a * b)) : IsEndless (x * y) :=
  unpack_pack_of_le (represents_mul hx hy) hle

theorem IsWorth.div_overflow (hx : IsWorth x a) (hy : IsWorth y b) (hb : b ≠ 0)
    (hle : beyond ≤ nearest (a / b)) : IsEndless (x / y) :=
  unpack_pack_of_le (represents_div hx hy hb) hle

theorem IsEndless.sub (hx : IsEndless x) (hy : IsWorth y b) : IsEndless (x - y) := by
  have hsub : UnpackedFloat.sub .binary64 (.infinity .positive) y.toModel.unpack =
      .infinity .positive := by
    unfold IsWorth at hy
    generalize y.toModel.unpack = g at hy
    cases hy <;> rfl
  unfold IsEndless
  rw [unpack_sub, hx, hsub, unpack_pack_infinity]

theorem IsEndless.mul (hx : IsEndless x) (hy : IsWorth y b) (hb : 0 < b) : IsEndless (x * y) := by
  unfold IsEndless
  rw [unpack_mul, hx, mul_infinity hy hb, unpack_pack_infinity]

/-- A difference of equals is zero, or no number. -/
theorem sub_self_cases (x : Float) : x - x = 0 ∨ x - x = 0 / 0 := by
  have hsub : sub .binary64 x.toModel.unpack x.toModel.unpack = .zero .positive ∨
      sub .binary64 x.toModel.unpack x.toModel.unpack = .notANumber := by
    cases x.toModel.unpack with
    | notANumber => exact .inr rfl
    | infinity s => cases s <;> exact .inr rfl
    | zero s => cases s <;> exact .inl rfl
    | finite s m e hpos =>
        left
        unfold sub
        dsimp only
        rw [Int.sub_self]
        rfl
  refine hsub.imp (fun h => eq_of_unpack ?_) (fun h => eq_of_unpack ?_)
  · rw [unpack_sub, h]
    rfl
  · rw [unpack_sub, h, unpack_pack_notANumber]
    rfl

end Doubles

/-! ## Results that are not finite -/

/-- No number, or an infinite one. -/
inductive NotFinite : UnpackedFloat → Prop
  | notANumber : NotFinite .notANumber
  | infinity (s : Sign) : NotFinite (.infinity s)

namespace NotFinite

variable {f g : UnpackedFloat}

theorem neg (h : NotFinite f) : NotFinite f.neg := by
  cases h with
  | notANumber => exact .notANumber
  | infinity s => exact .infinity _

theorem add_left (h : NotFinite f) (g : UnpackedFloat) : NotFinite (add .binary64 f g) := by
  cases h with
  | notANumber => exact .notANumber
  | infinity s =>
      cases g with
      | notANumber => exact .notANumber
      | infinity s' =>
          unfold add
          dsimp only
          split
          · exact .infinity s
          · exact .notANumber
      | zero s' => exact .infinity s
      | finite s' m e hpos => exact .infinity s

theorem add_right (h : NotFinite g) (f : UnpackedFloat) : NotFinite (add .binary64 f g) := by
  cases f with
  | notANumber => exact .notANumber
  | infinity s => exact add_left (.infinity s) g
  | zero s =>
      cases h with
      | notANumber => exact .notANumber
      | infinity s' => exact .infinity s'
  | finite s m e hpos =>
      cases h with
      | notANumber => exact .notANumber
      | infinity s' => exact .infinity s'

theorem sub_right (h : NotFinite g) (f : UnpackedFloat) : NotFinite (sub .binary64 f g) := by
  rw [sub_eq_add_neg']
  exact add_right h.neg f

theorem mul_left (h : NotFinite f) (g : UnpackedFloat) : NotFinite (mul .binary64 f g) := by
  cases h with
  | notANumber => exact .notANumber
  | infinity s =>
      cases g with
      | notANumber => exact .notANumber
      | infinity s' => exact .infinity _
      | zero s' => exact .notANumber
      | finite s' m e hpos => exact .infinity _

theorem div_left (h : NotFinite f) (g : UnpackedFloat) : NotFinite (div .binary64 f g) := by
  cases h with
  | notANumber => exact .notANumber
  | infinity s =>
      cases g with
      | notANumber => exact .notANumber
      | infinity s' => exact .notANumber
      | zero s' => exact .infinity _
      | finite s' m e hpos => exact .infinity _

/-- Packing makes nothing finite. -/
theorem unpack_pack (h : NotFinite f) : NotFinite (unpack .binary64 (pack .binary64 f)) := by
  cases h with
  | notANumber =>
      rw [unpack_pack_notANumber]
      exact .notANumber
  | infinity s =>
      rw [unpack_pack_infinity]
      exact .infinity s

end NotFinite

section Finite

variable {x y : Float}

theorem not_isFinite_iff : ¬ IsFinite x ↔ NotFinite x.toModel.unpack := by
  constructor
  · intro h
    rcases unpack_cases x with hnone | ⟨s, hinfinite⟩ | hfinite
    · rw [hnone]
      exact .notANumber
    · rw [hinfinite]
      exact .infinity s
    · exact absurd hfinite h
  · rintro h ⟨v, hv⟩
    unfold IsWorth at hv
    generalize x.toModel.unpack = f at h hv
    cases h <;> cases hv

theorem IsEndless.not_isFinite (h : IsEndless x) : ¬ IsFinite x := by
  rw [not_isFinite_iff, h]
  exact .infinity _

/-- A finite sum is one of finite doubles, and so on. -/
theorem IsFinite.of_add (h : IsFinite (x + y)) : IsFinite x ∧ IsFinite y := by
  constructor
  · by_contra hx
    refine not_isFinite_iff.mpr ?_ h
    rw [unpack_add]
    exact ((not_isFinite_iff.mp hx).add_left _).unpack_pack
  · by_contra hy
    refine not_isFinite_iff.mpr ?_ h
    rw [unpack_add]
    exact ((not_isFinite_iff.mp hy).add_right _).unpack_pack

theorem IsFinite.of_sub (h : IsFinite (x - y)) : IsFinite y := by
  by_contra hy
  refine not_isFinite_iff.mpr ?_ h
  rw [unpack_sub]
  exact ((not_isFinite_iff.mp hy).sub_right _).unpack_pack

theorem IsFinite.of_mul (h : IsFinite (x * y)) : IsFinite x := by
  by_contra hx
  refine not_isFinite_iff.mpr ?_ h
  rw [unpack_mul]
  exact ((not_isFinite_iff.mp hx).mul_left _).unpack_pack

theorem IsFinite.of_div (h : IsFinite (x / y)) : IsFinite x := by
  by_contra hx
  refine not_isFinite_iff.mpr ?_ h
  rw [unpack_div]
  exact ((not_isFinite_iff.mp hx).div_left _).unpack_pack

end Finite

end ReleaseSearch.Decimal
