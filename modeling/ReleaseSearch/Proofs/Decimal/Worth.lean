import ReleaseSearch.Proofs.Decimal.Double
import ReleaseSearch.Proofs.Decimal.Rounding

/-!
# The fraction that a double is worth

A double is no number, or infinite, or it is worth a fraction (`IsWorth`).  Doubles with a worth are
compared like the fractions, and packing a result keeps its worth, unless it is too large:

    IsWorth x a → IsWorth y b → (x < y ↔ a < b)
-/

namespace ReleaseSearch.Decimal

open Float.Model hiding pack unpack
open Float.Model.UnpackedFloat

/-- A double is worth a fraction. -/
def IsWorth (x : Float) (v : Rat) : Prop := Represents x.toModel.unpack v

/-- A double is positive and beyond all others. -/
def IsEndless (x : Float) : Prop := x.toModel.unpack = .infinity .positive

/-! ## Comparing -/

/-- What keeps the strict order keeps the outcome of a comparison. -/
theorem compare_map {α β : Type} [LinearOrder α] [LinearOrder β] {f : α → β} (hf : StrictMono f)
    (a b : α) : compare (f a) (f b) = compare a b := by
  rw [← cmp_eq_compare, ← cmp_eq_compare, hf.cmp_map_eq]

theorem compare_neg_neg (a b : Rat) : compare (-a) (-b) = (compare a b).swap := by
  rw [← cmp_eq_compare, ← cmp_eq_compare, cmp_swap]
  exact StrictAnti.cmp_map_eq (fun _ _ h => neg_lt_neg h) a b

/-- Among positive numbers in canonical form the exponent decides first. -/
theorem mul_zpow_lt_of_exponent {m m' : Nat} {e e' : Int} (hm : m < 2 ^ 53) (he : -1074 ≤ e)
    (hfull : 2 ^ 52 ≤ m' ∨ e' = -1074) (h : e < e') : (m : Rat) * 2 ^ e < m' * 2 ^ e' := by
  have hm' : (2 : Rat) ^ 52 ≤ m' := by
    exact_mod_cast hfull.resolve_right (by omega)
  calc (m : Rat) * 2 ^ e < 2 ^ 53 * 2 ^ e := by
        refine mul_lt_mul_of_pos_right ?_ (by positivity)
        exact_mod_cast hm
    _ = 2 ^ 52 * 2 ^ (e + 1) := by
        rw [zpow_add_one₀ two_ne_zero]
        ring
    _ ≤ m' * 2 ^ e' := by
        refine mul_le_mul hm' (zpow_le_zpow_right₀ one_le_two h) (by positivity) (by positivity)

/-- Positive numbers in canonical form are compared by exponent and then by mantissa. -/
theorem compare_mul_zpow {m m' : Nat} {e e' : Int} (hm : m < 2 ^ 53) (hm' : m' < 2 ^ 53)
    (he : -1074 ≤ e) (he' : -1074 ≤ e') (hfull : 2 ^ 52 ≤ m ∨ e = -1074)
    (hfull' : 2 ^ 52 ≤ m' ∨ e' = -1074) :
    (compare e e').then (compare m m') = compare ((m : Rat) * 2 ^ e) (m' * 2 ^ e') := by
  rcases lt_trichotomy e e' with h | rfl | h
  · rw [compare_lt_iff_lt.mpr h, compare_lt_iff_lt.mpr (mul_zpow_lt_of_exponent hm he hfull' h)]
    rfl
  · have hmono : StrictMono fun m : Nat => (m : Rat) * 2 ^ e :=
      (strictMono_mul_right_of_pos (by positivity)).comp Nat.strictMono_cast
    rw [compare_eq_iff_eq.mpr rfl, Ordering.eq_then, compare_map hmono]
  · rw [compare_gt_iff_gt.mpr h, compare_gt_iff_gt.mpr (mul_zpow_lt_of_exponent hm' he' hfull h)]
    rfl

/-- **Numbers are compared like the fractions that they are.** -/
theorem compare_represents {f g : UnpackedFloat} {a b : Rat} (hf : Represents f a)
    (hg : Represents g b) : f.compare g = some (compare a b) := by
  cases hf with
  | zero s hv =>
      subst hv
      cases hg with
      | zero s' hv' =>
          subst hv'
          rfl
      | @finite s' m' e' hpos' hm' he' hfull' _ hv' =>
          subst hv'
          have hvalue : (0 : Rat) < m' * 2 ^ e' := by positivity
          cases s' with
          | negative =>
              rw [compare_gt_iff_gt.mpr (by simpa [factor] using hvalue)]
              rfl
          | positive =>
              rw [compare_lt_iff_lt.mpr (by simpa [factor] using hvalue)]
              rfl
  | @finite s m e hpos hm he hfull _ hv =>
      subst hv
      have hvalue : (0 : Rat) < m * 2 ^ e := by positivity
      cases hg with
      | zero s' hv' =>
          subst hv'
          cases s with
          | negative =>
              rw [compare_lt_iff_lt.mpr (by simpa [factor] using hvalue)]
              rfl
          | positive =>
              rw [compare_gt_iff_gt.mpr (by simpa [factor] using hvalue)]
              rfl
      | @finite s' m' e' hpos' hm' he' hfull' _ hv' =>
          subst hv'
          have hvalue' : (0 : Rat) < m' * 2 ^ e' := by positivity
          -- Signs decide first, and between equal signs the magnitudes.
          have hmagnitude := compare_mul_zpow hm hm' he he' hfull hfull'
          cases s with
          | negative =>
              cases s' with
              | negative =>
                  rw [factor, neg_one_mul, neg_one_mul, compare_neg_neg, ← hmagnitude]
                  rfl
              | positive =>
                  rw [compare_lt_iff_lt.mpr (by simp only [factor]; linarith)]
                  rfl
          | positive =>
              cases s' with
              | negative =>
                  rw [compare_gt_iff_gt.mpr (by simp only [factor]; linarith)]
                  rfl
              | positive =>
                  rw [factor, one_mul, one_mul, ← hmagnitude]
                  rfl

/-- A number is less than what is beyond all others. -/
theorem compare_infinity {f : UnpackedFloat} {a : Rat} (hf : Represents f a) :
    f.compare (.infinity .positive) = some .lt := by
  cases hf <;> rfl

section Compare

variable {x y : Float} {a b : Rat}

theorem IsWorth.lt_iff (hx : IsWorth x a) (hy : IsWorth y b) : x < y ↔ a < b := by
  rw [lt_iff_compare, compare_represents hx hy, Option.some_inj, compare_lt_iff_lt]

theorem IsWorth.beq_iff (hx : IsWorth x a) (hy : IsWorth y b) : (x == y) = true ↔ a = b := by
  rw [beq_iff_compare, compare_represents hx hy, Option.some_inj, compare_eq_iff_eq]

theorem IsWorth.lt_endless (hx : IsWorth x a) (hy : IsEndless y) : x < y := by
  rw [lt_iff_compare, hy, compare_infinity hx]

theorem IsWorth.not_endless_lt (hx : IsWorth x a) (hy : IsEndless y) : ¬ y < x := by
  rw [lt_iff_compare, compare_swap, hy, compare_infinity hx]
  exact nofun

theorem IsWorth.not_endless_beq (hx : IsWorth x a) (hy : IsEndless y) : ¬ (y == x) = true := by
  rw [beq_iff_compare, compare_swap, hy, compare_infinity hx]
  exact nofun

theorem IsWorth.not_beq_endless (hx : IsWorth x a) (hy : IsEndless y) : ¬ (x == y) = true := by
  rw [beq_iff_compare, hy, compare_infinity hx]
  exact nofun

end Compare

/-! ## Packed forms -/

/-- A number out of the parts of its packed form. -/
def ofFields (s : Sign) (biased fraction : Nat) : UnpackedFloat :=
  if biased = 2047 then if fraction = 0 then .infinity s else .notANumber
  else if biased = 0 then ofParts s fraction (-1074)
  else ofParts s (2 ^ 52 + fraction) (biased - 1075)

theorem ofParts_of_pos (s : Sign) {m : Nat} (e : Int) (hm : 0 < m) :
    ofParts s m e = .finite s m e hm := dif_neg (Nat.ne_of_gt hm)

theorem finite_congr (s : Sign) {m m' : Nat} {e e' : Int} (hm : m = m') (he : e = e')
    (hpos : 0 < m) : UnpackedFloat.finite s m e hpos = .finite s m' e' (hm ▸ hpos) := by
  subst hm he
  rfl

/-- Unpacking reads the parts. -/
theorem unpack_eq (bits : BitVec 64) :
    unpack .binary64 bits =
      ofFields (Sign.ofBitVec (@unpackSign .binary64 bits))
        (@unpackExponent .binary64 bits).toNat (@unpackMantissa .binary64 bits).toNat := by
  have hfull : @unpackExponent .binary64 bits = -1#11 ↔
      (@unpackExponent .binary64 bits).toNat = 2047 := BitVec.toNat_inj.symm
  have hnone : @unpackExponent .binary64 bits = 0#11 ↔
      (@unpackExponent .binary64 bits).toNat = 0 := BitVec.toNat_inj.symm
  have hempty : @unpackMantissa .binary64 bits = 0#52 ↔
      (@unpackMantissa .binary64 bits).toNat = 0 := BitVec.toNat_inj.symm
  unfold unpack ofFields
  simp only [← hfull, ← hnone]
  split
  · simp only [hempty]
  · split
    · next _ hzero =>
      split
      · next hmantissa =>
        -- no exponent and no mantissa: zero
        rw [hempty.mp hmantissa]
        rfl
      · next hmantissa =>
        -- no exponent, but a mantissa: a subnormal, without the hidden bit
        have hpos : 0 < (@unpackMantissa .binary64 bits).toNat :=
          Nat.pos_of_ne_zero (mt hempty.mpr hmantissa)
        rw [ofParts_of_pos _ _ hpos]
        exact finite_congr _ rfl (by rw [hzero]; rfl) _
    -- a normal number: the hidden bit stands before the mantissa
    · have happend : (1#1 ++ @unpackMantissa .binary64 bits).toNat =
          2 ^ 52 + (@unpackMantissa .binary64 bits).toNat := by
        rw [BitVec.toNat_append, ← Nat.shiftLeft_add_eq_or_of_lt (BitVec.isLt _)]
        rfl
      rw [ofParts_of_pos _ _ (by omega)]
      exact finite_congr _ happend rfl _

theorem unpackSign_packComponents (s : Sign) (exponent : BitVec 11) (mantissa : BitVec 52) :
    @unpackSign .binary64 (packComponents .binary64 s exponent mantissa) = s.toBitVec := by
  have hfirst : (s.toBitVec ++ exponent ++ mantissa).getLsbD 63 = s.toBitVec.getLsbD 0 := by
    rw [BitVec.getLsbD_append, BitVec.getLsbD_append]
    rfl
  apply BitVec.eq_of_getLsbD_eq
  intro i hi
  obtain rfl : i = 0 := by omega
  show (BitVec.cast _ (BitVec.extractLsb 63 63 (s.toBitVec ++ exponent ++ mantissa))).getLsbD 0 = _
  rw [BitVec.getLsbD_cast, BitVec.getLsbD_extractLsb]
  simpa using hfirst

theorem ofBitVec_toBitVec (s : Sign) : Sign.ofBitVec s.toBitVec = s := by
  cases s <;> rfl

theorem unpack_packComponents (s : Sign) (exponent : BitVec 11) (mantissa : BitVec 52) :
    unpack .binary64 (packComponents .binary64 s exponent mantissa) =
      ofFields s exponent.toNat mantissa.toNat := by
  rw [unpack_eq, unpackSign_packComponents, ofBitVec_toBitVec, unpackExponent_packComponents,
    unpackMantissa_packComponents]

theorem unpack_pack_notANumber :
    unpack .binary64 (pack .binary64 .notANumber) = .notANumber :=
  unpack_packComponents .positive (-1#11) (1#52 <<< 51)

theorem unpack_pack_infinity (s : Sign) :
    unpack .binary64 (pack .binary64 (.infinity s)) = .infinity s :=
  unpack_packComponents s (-1#11) 0

/-- What is unpacked is no number, or infinite, or a number in canonical form. -/
theorem ofFields_cases (s : Sign) {biased fraction : Nat} (hbiased : biased < 2048)
    (hfraction : fraction < 2 ^ 52) :
    ofFields s biased fraction = .notANumber ∨ ofFields s biased fraction = .infinity s ∨
      ∃ v, Represents (ofFields s biased fraction) v := by
  unfold ofFields
  split
  · split
    · exact .inr (.inl rfl)
    · exact .inl rfl
  · split
    · exact .inr (.inr ⟨_, represents_ofParts s (by omega) (by omega) (.inr rfl)⟩)
    · exact .inr (.inr ⟨_, represents_ofParts s (by omega) (by omega) (.inl (by omega))⟩)

/-- The fields of the packed form, as numbers. -/
theorem unpack_toModel (x : Float) :
    x.toModel.unpack =
      ofFields (if x.toBits.toNat / 2 ^ 63 = 1 then .negative else .positive)
        (x.toBits.toNat / 2 ^ 52 % 2048) (x.toBits.toNat % 2 ^ 52) := by
  have hunpack : x.toModel.unpack = unpack .binary64 x.toBits.toBitVec := rfl
  have hexponent : (@unpackExponent .binary64 x.toBits.toBitVec).toNat =
      x.toBits.toNat / 2 ^ 52 % 2048 := by
    simp [unpackExponent, Nat.shiftRight_eq_div_pow]
  have hmantissa : (@unpackMantissa .binary64 x.toBits.toBitVec).toNat =
      x.toBits.toNat % 2 ^ 52 := by
    simp [unpackMantissa]
  -- a single bit that is not nothing is one
  have hsign : Sign.ofBitVec (@unpackSign .binary64 x.toBits.toBitVec) =
      if x.toBits.toNat / 2 ^ 63 = 1 then .negative else .positive := by
    have hbit : (@unpackSign .binary64 x.toBits.toBitVec).toNat = x.toBits.toNat / 2 ^ 63 := by
      have := x.toBits.toNat_lt
      simp [unpackSign, Nat.shiftRight_eq_div_pow]
      omega
    unfold Sign.ofBitVec
    by_cases hzero : @unpackSign .binary64 x.toBits.toBitVec = 0#1
    · rw [if_pos hzero, if_neg]
      rw [← hbit, hzero]
      decide
    · have hone : (@unpackSign .binary64 x.toBits.toBitVec).toNat ≠ 0 :=
        fun h => hzero (BitVec.eq_of_toNat_eq h)
      have hlt := (@unpackSign .binary64 x.toBits.toBitVec).isLt
      rw [if_neg hzero, if_pos (by omega)]
  rw [hunpack, unpack_eq, hexponent, hmantissa, hsign]

/-! ## Packing -/

/-- What is as large as this is too large for a double. -/
def beyond : Rat := 2 ^ (1024 : Int)

theorem beyond_pos : 0 < beyond := zpow_pos two_pos _

/-- A number that is not too large has an exponent that can be packed. -/
theorem exponent_le {m : Nat} {e : Int} (hfull : 2 ^ 52 ≤ m ∨ e = -1074)
    (h : (m : Rat) * 2 ^ e < beyond) : e ≤ 971 := by
  by_contra hlarge
  have hm : (2 : Rat) ^ (52 : Int) ≤ m := by exact_mod_cast hfull.resolve_right (by omega)
  refine h.not_ge ?_
  calc beyond = 2 ^ ((52 : Int) + 972) := rfl
    _ = 2 ^ (52 : Int) * 2 ^ (972 : Int) := zpow_add₀ two_ne_zero _ _
    _ ≤ m * 2 ^ e :=
        mul_le_mul hm (zpow_le_zpow_right₀ one_le_two (by omega)) (zpow_nonneg two_pos.le _)
          (Nat.cast_nonneg m)

theorem le_exponent {m : Nat} {e : Int} (hm : m < 2 ^ 53) (h : beyond ≤ m * 2 ^ e) :
    972 ≤ e := by
  by_contra hsmall
  have hm : (m : Rat) < 2 ^ (53 : Int) := by exact_mod_cast hm
  refine h.not_gt ?_
  calc (m : Rat) * 2 ^ e < 2 ^ (53 : Int) * 2 ^ e := mul_lt_mul_of_pos_right hm (by positivity)
    _ = 2 ^ ((53 : Int) + e) := (zpow_add₀ two_ne_zero _ _).symm
    _ ≤ beyond := zpow_le_zpow_right₀ one_le_two (by omega)

theorem lt_beyond_iff {m : Nat} {e : Int} (hm : m < 2 ^ 53) (hfull : 2 ^ 52 ≤ m ∨ e = -1074) :
    (m : Rat) * 2 ^ e < beyond ↔ e ≤ 971 := by
  refine ⟨exponent_le hfull, fun he => ?_⟩
  by_contra hlarge
  have := le_exponent hm (not_lt.mp hlarge)
  omega

theorem abs_factor_mul (s : Sign) {v : Rat} (hv : 0 ≤ v) : |factor s * v| = v := by
  cases s <;> simp [factor, abs_of_nonneg hv]

/-- A finite number is packed by the length of its mantissa. -/
theorem pack_finite {s : Sign} {m : Nat} {e : Int} (hpos : 0 < m) (hm : m < 2 ^ 53)
    (he : -1074 ≤ e) (he' : e ≤ 971) :
    pack .binary64 (.finite s m e hpos) =
      packComponents .binary64 s
        (BitVec.ofNat 11 (if 2 ^ 52 ≤ m then (e + 1075).toNat else 0)) (BitVec.ofNat 52 m) := by
  have hlog : m.log2 + 1 = 53 ↔ 2 ^ 52 ≤ m := by
    rw [← Nat.le_log2 (Nat.ne_of_gt hpos)]
    have := (Nat.log2_lt (Nat.ne_of_gt hpos)).mpr hm
    omega
  have hbiased : ¬ 2 ^ 11 ≤ (e + 1023 + 52).toNat + 1 := by omega
  have hpack : pack .binary64 (.finite s m e hpos) =
      if 2 ^ 11 ≤ (e + 1023 + 52).toNat + 1 then packedInfinity .binary64 s
      else if m.log2 + 1 = 53 then
        packComponents .binary64 s (BitVec.ofNat 11 (e + 1023 + 52).toNat) (BitVec.ofNat 52 m)
      else packComponents .binary64 s 0#11 (BitVec.ofNat 52 m) := rfl
  rw [hpack, if_neg hbiased]
  simp only [hlog]
  split
  · rw [show e + 1023 + 52 = e + 1075 by omega]
  · rfl

/-- **Packing keeps a number** that is not too large. -/
theorem unpack_pack {f : UnpackedFloat} {v : Rat} (h : Represents f v) (hlt : |v| < beyond) :
    unpack .binary64 (pack .binary64 f) = f := by
  cases h with
  | zero s hv => exact unpack_packComponents s 0 0
  | @finite s m e hpos hm he hfull _ hv =>
      subst hv
      rw [abs_factor_mul s (by positivity)] at hlt
      have he' := exponent_le hfull hlt
      rw [pack_finite hpos hm he he', unpack_packComponents, ← ofParts_of_pos s e hpos,
        BitVec.toNat_ofNat, BitVec.toNat_ofNat]
      unfold ofFields
      by_cases hlong : 2 ^ 52 ≤ m
      · rw [if_pos hlong, if_neg (by omega), if_neg (by omega)]
        congr 1 <;> omega
      · rw [if_neg hlong, if_neg (by decide), if_pos (by decide)]
        congr 1 <;> omega

/-- What is too large is packed as infinite. -/
theorem unpack_pack_of_le {f : UnpackedFloat} {v : Rat} (h : Represents f v)
    (hle : beyond ≤ v) : unpack .binary64 (pack .binary64 f) = .infinity .positive := by
  cases h with
  | zero s hv =>
      subst hv
      exact absurd hle beyond_pos.not_ge
  | @finite s m e hpos hm he hfull _ hv =>
      subst hv
      cases s with
      | negative =>
          have hnonneg : (0 : Rat) ≤ m * 2 ^ e := by positivity
          rw [factor] at hle
          linarith [beyond_pos]
      | positive =>
          rw [factor, one_mul] at hle
          have he' := le_exponent hm hle
          have hbiased : 2 ^ 11 ≤ (e + 1023 + 52).toNat + 1 := by omega
          have hpack : pack .binary64 (.finite .positive m e hpos) =
              packedInfinity .binary64 .positive := if_pos hbiased
          rw [hpack]
          exact unpack_pack_infinity .positive

/-! ## Finite doubles -/

/-- A double that is worth something. -/
def IsFinite (x : Float) : Prop := ∃ v, IsWorth x v

theorem IsWorth.isFinite {x : Float} {v : Rat} (h : IsWorth x v) : IsFinite x := ⟨v, h⟩

/-- A double is no number, or infinite, or finite. -/
theorem unpack_cases (x : Float) :
    x.toModel.unpack = .notANumber ∨ (∃ s, x.toModel.unpack = .infinity s) ∨ IsFinite x := by
  have hcases := ofFields_cases (if x.toBits.toNat / 2 ^ 63 = 1 then Sign.negative else .positive)
    (Nat.mod_lt (x.toBits.toNat / 2 ^ 52) (show 0 < 2048 by decide))
    (Nat.mod_lt x.toBits.toNat (show 0 < 2 ^ 52 by decide))
  rw [← unpack_toModel] at hcases
  rcases hcases with h | h | h
  · exact .inl h
  · exact .inr (.inl ⟨_, h⟩)
  · exact .inr (.inr h)

/-- What a double is worth is not too large. -/
theorem IsWorth.abs_lt {x : Float} {v : Rat} (h : IsWorth x v) : |v| < beyond := by
  unfold IsWorth at h
  rw [unpack_toModel] at h
  generalize (if x.toBits.toNat / 2 ^ 63 = 1 then Sign.negative else .positive) = s at h
  unfold ofFields at h
  split at h
  · split at h <;> cases h
  · split at h
    · rw [h.unique (represents_ofParts s (by omega) (by omega) (.inr rfl)),
        abs_factor_mul s (by positivity), lt_beyond_iff (by omega) (.inr rfl)]
      decide
    · rw [h.unique (represents_ofParts s (by omega) (by omega) (.inl (by omega))),
        abs_factor_mul s (by positivity), lt_beyond_iff (by omega) (.inl (by omega))]
      omega

theorem IsWorth.lt_beyond {x : Float} {v : Rat} (h : IsWorth x v) : v < beyond :=
  (le_abs_self v).trans_lt h.abs_lt

/-- A finite double is a multiple of the least one. -/
theorem IsWorth.exists_multiple {x : Float} {v : Rat} (h : IsWorth x v) :
    ∃ n : Int, v = n * 2 ^ (-1074 : Int) := by
  unfold IsWorth at h
  generalize x.toModel.unpack = f at h
  cases h with
  | zero s hv => exact ⟨0, by rw [hv, Int.cast_zero, zero_mul]⟩
  | @finite s m e hpos hm he hfull _ hv =>
      obtain ⟨k, hk⟩ := Int.eq_ofNat_of_zero_le (show 0 ≤ e + 1074 by omega)
      refine ⟨s.apply (m * 2 ^ k : Nat), ?_⟩
      rw [hv, factor_apply, show e = k + -1074 by omega, zpow_add₀ two_ne_zero, zpow_natCast]
      generalize (2 : Rat) ^ (-1074 : Int) = least
      push_cast
      ring

/-- The difference of two doubles does not vanish. -/
theorem IsWorth.nearestValue_sub_pos {x y : Float} {a b : Rat} (hx : IsWorth x a)
    (hy : IsWorth y b) (hab : a < b) : 0 < nearestValue (b - a) := by
  obtain ⟨m, rfl⟩ := hx.exists_multiple
  obtain ⟨n, rfl⟩ := hy.exists_multiple
  have hleast : (0 : Rat) < 2 ^ (-1074 : Int) := zpow_pos two_pos _
  have hmn : m + 1 ≤ n := by exact_mod_cast lt_of_mul_lt_mul_right hab hleast.le
  have hone : ((1 : Nat) : Rat) ≤ n - m := by
    have : ((m + 1 : Int) : Rat) ≤ n := Int.cast_le.mpr hmn
    push_cast at this ⊢
    linarith
  have hle : ((1 : Nat) : Rat) * 2 ^ (-1074 : Int) ≤
      n * 2 ^ (-1074 : Int) - m * 2 ^ (-1074 : Int) := by
    rw [← sub_mul]
    exact mul_le_mul_of_nonneg_right hone hleast.le
  refine lt_of_lt_of_le ?_ (le_nearestValue hle (by decide) le_rfl)
  rwa [Nat.cast_one, one_mul]

/-- Twice a double that is not negative has few digits, too. -/
theorem IsWorth.nearestValue_two_mul {x : Float} {v : Rat} (h : IsWorth x v) (hv : 0 ≤ v) :
    nearestValue (2 * v) = 2 * v := by
  unfold IsWorth at h
  generalize x.toModel.unpack = f at h
  cases h with
  | zero s hzero => rw [hzero, mul_zero, nearestValue_zero]
  | @finite s m e hpos hm he hfull _ hvalue =>
      have hpositive : (0 : Rat) < m * 2 ^ e := by positivity
      have hdouble : 2 * v = m * 2 ^ (e + 1) := by
        rw [← abs_of_nonneg hv, hvalue, abs_factor_mul s hpositive.le, zpow_add_one₀ two_ne_zero]
        ring
      rw [hdouble, nearestValue_eq_self hm (by omega)]

end ReleaseSearch.Decimal
