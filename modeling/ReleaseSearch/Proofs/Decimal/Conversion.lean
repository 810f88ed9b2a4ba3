import ReleaseSearch.Decimal.Scale
import ReleaseSearch.Proofs.Decimal.Arithmetic
import ReleaseSearch.Proofs.Decimal.Whole

/-!
# Between fractions and doubles

A quotient of whole numbers goes to the double that is worth its nearest value, if that is not too
large (`nearest?_eq`).  The other way round, the whole part of a double and its order among the
whole numbers are those of the fraction that it is worth.
-/

namespace ReleaseSearch.Decimal

open Float.Model hiding pack unpack
open Float.Model.UnpackedFloat

/-! ## The parts of a double -/

/-- The parts of a double, if it is finite. -/
theorem ofFloat_cases (x : Float) :
    (∃ negative m e, Double.ofFloat x = .finite negative m e ∧
      IsWorth x (factor (if negative then .negative else .positive) * (m * 2 ^ e))) ∨
    (¬ IsFinite x ∧ ((∃ negative, Double.ofFloat x = .infinite negative) ∨
      Double.ofFloat x = .nan)) := by
  have hpow : Nat.pow 2 52 = 2 ^ 52 := rfl
  have hpow' : Nat.pow 2 63 = 2 ^ 63 := rfl
  rw [not_isFinite_iff]
  unfold IsWorth
  rw [unpack_toModel]
  unfold ofFields Double.ofFloat
  simp only [hpow, hpow']
  split
  -- the largest exponent is kept for what is no finite number
  · right
    split
    · exact ⟨.infinity _, .inl ⟨_, rfl⟩⟩
    · exact ⟨.notANumber, .inr rfl⟩
  -- with the least exponent there is no hidden bit
  · left
    split
    · refine ⟨_, _, _, rfl, ?_⟩
      simp only [beq_iff_eq]
      exact represents_ofParts _ (by omega) (by omega) (.inr rfl)
    · refine ⟨_, _, _, rfl, ?_⟩
      simp only [beq_iff_eq]
      exact represents_ofParts _ (by omega) (by omega) (.inl (by omega))

/-- The parts of a double that is worth a fraction. -/
theorem IsWorth.ofFloat {x : Float} {v : Rat} (h : IsWorth x v) :
    ∃ negative m e, Double.ofFloat x = .finite negative m e ∧
      v = factor (if negative then .negative else .positive) * (m * 2 ^ e) := by
  rcases ofFloat_cases x with ⟨negative, m, e, hparts, hworth⟩ | ⟨hnot, _⟩
  · exact ⟨negative, m, e, hparts, h.unique hworth⟩
  · exact absurd h.isFinite hnot

theorem isFinite_iff {x : Float} : isFinite x = true ↔ IsFinite x := by
  unfold isFinite
  rcases ofFloat_cases x with ⟨negative, m, e, hparts, hworth⟩ | ⟨hnot, ⟨_, hparts⟩ | hparts⟩
  · rw [hparts]
    exact iff_of_true rfl hworth.isFinite
  · rw [hparts]
    exact iff_of_false Bool.false_ne_true hnot
  · rw [hparts]
    exact iff_of_false Bool.false_ne_true hnot

theorem IsEndless.ofFloat {x : Float} (h : IsEndless x) : Double.ofFloat x = .infinite false := by
  have hpow : Nat.pow 2 52 = 2 ^ 52 := rfl
  have hpow' : Nat.pow 2 63 = 2 ^ 63 := rfl
  unfold IsEndless at h
  rw [unpack_toModel] at h
  unfold ofFields at h
  unfold Double.ofFloat
  simp only [hpow, hpow']
  split at h
  · next hbiased =>
    split at h
    · next hzero =>
      rw [if_pos hbiased, if_pos hzero]
      split at h
      · cases h
      · next hsign => rw [beq_eq_false_iff_ne.mpr hsign]
    · cases h
  · split at h <;> (unfold ofParts at h; split at h <;> cases h)

/-! ## Whole parts and order -/

/-- Scaling multiplies with a power of two. -/
theorem scale_div (num : Nat) {den : Nat} (hden : 0 < den) (shift : Int) :
    0 < (scale num den shift).2 ∧
      ((scale num den shift).1 : Rat) / (scale num den shift).2 = num / den * 2 ^ shift := by
  have hden' : (den : Rat) ≠ 0 := by exact_mod_cast Nat.ne_of_gt hden
  rcases Int.le_total 0 shift with h | h
  · obtain ⟨k, rfl⟩ := Int.eq_ofNat_of_zero_le h
    rw [scale_natCast, zpow_natCast]
    refine ⟨hden, ?_⟩
    push_cast
    ring
  · obtain ⟨k, hk⟩ := Int.eq_ofNat_of_zero_le (Int.neg_nonneg.mpr h)
    obtain rfl : shift = -k := by omega
    rw [scale_neg_natCast, zpow_neg, zpow_natCast]
    refine ⟨Nat.mul_pos hden (Nat.two_pow_pos k), ?_⟩
    push_cast
    field_simp

section Read

variable {x : Float} {v : Rat}

/-- **The whole part of a double** is that of the fraction. -/
theorem IsWorth.floor?_eq (h : IsWorth x v) (hv : 0 ≤ v) : floor? x = some ⌊v⌋ := by
  obtain ⟨negative, m, e, hparts, hvalue⟩ := h.ofFloat
  obtain ⟨hden, hscale⟩ := scale_div m Nat.one_pos e
  rw [Nat.cast_one, div_one] at hscale
  unfold floor? magnitude
  rw [hparts]
  simp only
  cases negative with
  | false =>
      rw [if_neg Bool.false_ne_true, factor, one_mul] at hvalue
      rw [if_neg Bool.false_ne_true, hvalue, ← hscale, Int.floor_div_natCast, Int.floor_natCast,
        Int.natCast_div]
  | true =>
      -- Only zero has a sign and is not below zero.
      rw [if_pos rfl, factor, neg_one_mul] at hvalue
      have hzero : (m : Rat) * 2 ^ e = 0 := by
        have hpos : (0 : Rat) ≤ m * 2 ^ e := by positivity
        linarith
      have hden' : ((scale m 1 e).2 : Rat) ≠ 0 := by exact_mod_cast Nat.ne_of_gt hden
      rw [hzero, div_eq_zero_iff, or_iff_left hden', Nat.cast_eq_zero] at hscale
      rw [if_pos rfl, hscale, hvalue, hzero, Nat.div_eq_of_lt (by omega)]
      simp

/-- **How a whole number compares with a double.** -/
theorem IsWorth.compareInt?_eq (h : IsWorth x v) (n : Int) :
    compareInt? n x = some (compare (n : Rat) v) := by
  obtain ⟨negative, m, e, hparts, hvalue⟩ := h.ofFloat
  obtain ⟨hden, hscale⟩ := scale_div m Nat.one_pos e
  rw [Nat.cast_one, div_one] at hscale
  unfold compareInt? magnitude
  rw [hparts]
  simp only
  generalize (scale m 1 e).1 = num at hscale
  generalize (scale m 1 e).2 = den at hden hscale
  have hden' : (0 : Rat) < den := by exact_mod_cast hden
  have hnum : v * den = ((if negative then -(num : Int) else num : Int) : Rat) := by
    rw [hvalue, ← hscale]
    cases negative
    · simp [factor, hden'.ne']
    · simp [factor, hden'.ne']
  rw [Option.some_inj, ← compare_map (strictMono_mul_right_of_pos hden') (n : Rat) v, hnum,
    ← compare_map (Int.cast_strictMono (R := Rat))]
  push_cast
  rfl

theorem IsEndless.compareInt?_eq (h : IsEndless x) (n : Int) : compareInt? n x = some .lt := by
  unfold compareInt?
  rw [h.ofFloat]
  rfl

end Read

/-! ## The nearest double -/

/-- **The binary logarithm of a quotient**, out of whole numbers. -/
theorem floorLog2_eq {num den : Nat} (hnum : 0 < num) (hden : 0 < den) :
    floorLog2 num den = Int.log 2 ((num : Rat) / den) := by
  have hlog (n : Nat) : Int.log 2 (n : Rat) = n.log2 := by
    rw [Int.log_natCast, Nat.log2_eq_log_two]
  have hnum' : (0 : Rat) < num := by exact_mod_cast hnum
  have hden' : (0 : Rat) < den := by exact_mod_cast hden
  obtain ⟨hlow, hhigh⟩ := log_div_bounds hnum' hden'
  rw [hlog, hlog] at hlow hhigh
  obtain ⟨hscaled, hscale⟩ := scale_div num hden (-((num.log2 : Int) - den.log2))
  have hreached : (scale num den (-((num.log2 : Int) - den.log2))).1 ≥
      (scale num den (-((num.log2 : Int) - den.log2))).2 ↔
        (num.log2 : Int) - den.log2 ≤ Int.log 2 ((num : Rat) / den) := by
    rw [← Int.zpow_le_iff_le_log (by decide : 1 < 2) (by positivity), ge_iff_le,
      ← Nat.cast_le (α := Rat), ← one_le_div₀ (by exact_mod_cast hscaled), hscale, zpow_neg,
      ← div_eq_mul_inv, one_le_div₀ (by positivity)]
    rfl
  unfold floorLog2
  simp only [hreached]
  split <;> omega

theorem roundQuotient_eq (a : Nat) {b : Nat} (hb : 0 < b) :
    (roundQuotient a b : Int) = nearestWhole ((a : Rat) / b) := by
  have hbelow : Int.fract ((a : Rat) / b) < 1 / 2 ↔ 2 * (a % b) < b := by
    rw [← not_le, half_le_fract_quotient a hb, not_le]
  unfold roundQuotient nearestWhole
  simp only [floor_quotient, hbelow, fract_quotient_eq_half a hb, Bool.or_eq_true,
    Bool.and_eq_true, decide_eq_true_eq, beq_iff_eq]
  split <;> split <;> (try split) <;> omega

/-- The fields of a finite double that is not negative. -/
theorem unpack_ofBits {bits : Nat} (hfinite : bits < 2047 * 2 ^ 52) :
    (Float.ofBits (UInt64.ofNat bits)).toModel.unpack =
      ofFields .positive (bits / 2 ^ 52) (bits % 2 ^ 52) := by
  rw [unpack_toModel, toBits_ofBits hfinite, if_neg (by omega), Nat.mod_eq_of_lt (by omega)]

/-- The bits of a mantissa of at most 53 digits with an exponent. -/
def bitsOf (q : Nat) (g : Int) : Nat :=
  if q < 2 ^ 52 then q else (g + 1075).toNat * 2 ^ 52 + (q - 2 ^ 52)

theorem bitsOf_lt_iff {q : Nat} {g : Int} (hq : q < 2 ^ 53) (hg : -1074 ≤ g)
    (hfull : 2 ^ 52 ≤ q ∨ g = -1074) :
    bitsOf q g < 2047 * 2 ^ 52 ↔ (q : Rat) * 2 ^ g < beyond := by
  rw [lt_beyond_iff hq hfull]
  unfold bitsOf
  split <;> omega

theorem isWorth_bitsOf {q : Nat} {g : Int} (hq : q < 2 ^ 53) (hg : -1074 ≤ g)
    (hfull : 2 ^ 52 ≤ q ∨ g = -1074) (hfinite : bitsOf q g < 2047 * 2 ^ 52) :
    IsWorth (Float.ofBits (UInt64.ofNat (bitsOf q g))) (q * 2 ^ g) := by
  have hparts : (Float.ofBits (UInt64.ofNat (bitsOf q g))).toModel.unpack =
      ofParts .positive q g := by
    rw [unpack_ofBits hfinite]
    unfold ofFields
    by_cases hlong : 2 ^ 52 ≤ q
    · have hbits : bitsOf q g = (g + 1075).toNat * 2 ^ 52 + (q - 2 ^ 52) := if_neg hlong.not_gt
      have hbiased : bitsOf q g / 2 ^ 52 = (g + 1075).toNat := by omega
      have hfraction : bitsOf q g % 2 ^ 52 = q - 2 ^ 52 := by omega
      have hexponent : ((g + 1075).toNat : Int) - 1075 = g := by omega
      rw [hbiased, hfraction, if_neg (by omega), if_neg (by omega), Nat.add_sub_cancel' hlong,
        hexponent]
    · have hbits : bitsOf q g = q := if_pos (not_le.mp hlong)
      obtain rfl := hfull.resolve_left hlong
      rw [hbits, Nat.div_eq_of_lt (not_le.mp hlong), Nat.mod_eq_of_lt (not_le.mp hlong)]
      rfl
  unfold IsWorth
  rw [hparts, ← one_mul ((q : Rat) * 2 ^ g)]
  exact represents_ofParts .positive hq hg hfull

/-- A mantissa that has got one digit longer is a power of two. -/
theorem bitsOf_carry {g : Int} (hg : -1074 ≤ g) : bitsOf (2 ^ 53) g = bitsOf (2 ^ 52) (g + 1) := by
  unfold bitsOf
  rw [if_neg (by decide), if_neg (by decide)]
  omega

/-- The bits of a rounded mantissa, which may be a power of two that is too long. -/
theorem bitsOf_spec {q : Nat} {g : Int} (hq : q ≤ 2 ^ 53) (hg : -1074 ≤ g)
    (hfull : 2 ^ 52 ≤ q ∨ g = -1074) :
    (bitsOf q g < 2047 * 2 ^ 52 ↔ (q : Rat) * 2 ^ g < beyond) ∧
      (bitsOf q g < 2047 * 2 ^ 52 →
        IsWorth (Float.ofBits (UInt64.ofNat (bitsOf q g))) (q * 2 ^ g)) := by
  rcases hq.lt_or_eq with hlt | rfl
  · exact ⟨bitsOf_lt_iff hlt hg hfull, isWorth_bitsOf hlt hg hfull⟩
  · have hvalue : ((2 ^ 53 : Nat) : Rat) * 2 ^ g = (2 ^ 52 : Nat) * 2 ^ (g + 1) := by
      rw [zpow_add_one₀ two_ne_zero]
      push_cast
      ring
    rw [bitsOf_carry hg, hvalue]
    exact ⟨bitsOf_lt_iff (by decide) (by omega) (.inl le_rfl),
      isWorth_bitsOf (by decide) (by omega) (.inl le_rfl)⟩

/-- The bits that are computed for a quotient are those of its nearest value. -/
theorem nearestBits?_eq {num den : Nat} (hnum : 0 < num) (hden : 0 < den) :
    ∃ q : Nat, (q : Int) = nearestWhole ((num : Rat) / den / 2 ^ grid ((num : Rat) / den)) ∧
      nearestBits? num den =
        if bitsOf q (grid ((num : Rat) / den)) < 2047 * 2 ^ 52 then
          some (bitsOf q (grid ((num : Rat) / den)))
        else none := by
  obtain ⟨hscaled, hscale⟩ := scale_div num hden (-grid ((num : Rat) / den))
  refine ⟨roundQuotient (scale num den (-grid ((num : Rat) / den))).1
    (scale num den (-grid ((num : Rat) / den))).2, ?_, ?_⟩
  · rw [roundQuotient_eq _ hscaled, hscale, zpow_neg, ← div_eq_mul_inv]
  · unfold nearestBits?
    rw [if_neg (Nat.ne_of_gt hnum), floorLog2_eq hnum hden]
    rfl

/-- **The double nearest to a quotient** is worth its nearest value, if that is not too large. -/
theorem nearest?_eq (num : Nat) {den : Nat} (hden : 0 < den) :
    if nearestValue ((num : Rat) / den) < beyond then
      ∃ x, nearest? false num den = some x ∧ IsWorth x (nearestValue ((num : Rat) / den))
    else nearest? false num den = none := by
  rcases Nat.eq_zero_or_pos num with rfl | hnum
  · rw [Nat.cast_zero, zero_div, nearestValue_zero, if_pos beyond_pos]
    exact ⟨Float.ofBits 0, rfl, .zero .positive rfl⟩
  · obtain ⟨q, hq, hbits⟩ := nearestBits?_eq hnum hden
    obtain ⟨hle, hfull, hvalue⟩ := nearestValue_mantissa (by positivity) hq
    obtain ⟨hfinite, hworth⟩ := bitsOf_spec hle (finest_le_grid _) hfull
    unfold nearest?
    simp only [Bool.false_eq_true, if_false]
    rw [hvalue, hbits]
    split
    · next hlt =>
      rw [if_pos (hfinite.mpr hlt)]
      exact ⟨_, rfl, hworth (hfinite.mpr hlt)⟩
    · next hlarge =>
      rw [if_neg (mt hfinite.mp hlarge)]
      rfl

/-! ## The operations of a scale -/

theorem isWorth_ratio {num den : Nat} (hden : 0 < den)
    (hlt : nearestValue ((num : Rat) / den) < beyond) :
    IsWorth (Scale.ratio num den) (nearestValue ((num : Rat) / den)) := by
  have hnearest := nearest?_eq num hden
  rw [if_pos hlt] at hnearest
  obtain ⟨x, hx, hworth⟩ := hnearest
  have hratio : (Scale.ratio num den : Float) = (nearest? false num den).getD infinity := by
    have hsign : decide ((num : Int) < 0) = false := decide_eq_false (by omega)
    show (nearest? (decide ((num : Int) < 0)) (num : Int).natAbs den).getD infinity = _
    rw [hsign, Int.natAbs_natCast]
  rwa [hratio, hx]

theorem lt_beyond_of_lt {v : Rat} (h : v < 2 ^ 53) : v < beyond := by
  refine h.trans_le ?_
  rw [← zpow_natCast]
  exact zpow_le_zpow_right₀ one_le_two (by decide)

theorem isWorth_natCast {n : Nat} (hn : n < 2 ^ 53) : IsWorth (Scale.ratio n 1) n := by
  have hexact : nearestValue ((n : Rat) / (1 : Nat)) = n := by
    simpa using nearestValue_eq_self hn (show (-1074 : Int) ≤ 0 by decide)
  have hlt : (n : Rat) < beyond := lt_beyond_of_lt (by exact_mod_cast hn)
  simpa only [hexact] using isWorth_ratio Nat.one_pos (hexact.trans_lt hlt)

theorem isWorth_zero : IsWorth Scale.zero 0 := by
  exact_mod_cast isWorth_natCast (n := 0) (by decide)

/-- A whole number goes to its nearest value, if that is not too large. -/
theorem ofInt?_natCast (n : Nat) (hlt : nearestValue n < beyond) :
    ∃ x : Float, Scale.ofInt? (n : Int) = some x ∧ IsWorth x (nearestValue n) := by
  have hnearest := nearest?_eq n Nat.one_pos
  rw [Nat.cast_one, div_one, if_pos hlt] at hnearest
  have hofInt : (Scale.ofInt? (n : Int) : Option Float) = nearest? false n 1 := by
    have hsign : decide ((n : Int) < 0) = false := decide_eq_false (by omega)
    show nearest? (decide ((n : Int) < 0)) (n : Int).natAbs 1 = _
    rw [hsign, Int.natAbs_natCast]
  rwa [hofInt]

section Scales

variable {x y : Float} {a b : Rat}

theorem IsWorth.less_iff (hx : IsWorth x a) (hy : IsWorth y b) :
    Scale.less x y = true ↔ a < b := by
  show decide (x < y) = true ↔ a < b
  rw [decide_eq_true_iff, hx.lt_iff hy]

theorem IsWorth.isZero_iff (hx : IsWorth x a) : Scale.isZero x = true ↔ a = 0 := by
  show (x == 0) = true ↔ a = 0
  exact hx.beq_iff (.zero .positive rfl)

theorem IsWorth.distance (hx : IsWorth x a) : IsWorth (Scale.distance x) |a| := by
  unfold Scale.distance
  by_cases ha : a < 0
  · have hnearest : nearest (0 - a) = |a| := by
      rw [zero_sub, nearest_neg, nearest_of_represents hx, abs_of_neg ha]
    rw [if_pos ((hx.less_iff isWorth_zero).mpr ha), ← hnearest]
    refine isWorth_zero.sub hx ?_
    rw [hnearest, abs_abs]
    exact hx.abs_lt
  · rw [if_neg (mt (hx.less_iff isWorth_zero).mp ha), abs_of_nonneg (not_lt.mp ha)]
    exact hx

/-- The whole part of a double. -/
theorem IsWorth.floor_eq (hx : IsWorth x a) (ha : 0 ≤ a) : Scale.floor x = .ok ⌊a⌋ := by
  simp only [Scale.floor, hx.floor?_eq ha]

/-- What has a whole part is finite. -/
theorem isFinite_of_floor {n : Int} (h : Scale.floor x = .ok n) : IsFinite x := by
  rcases ofFloat_cases x with ⟨_, _, _, _, hworth⟩ | ⟨_, hparts⟩
  · exact hworth.isFinite
  · have hnone : floor? x = none := by
      unfold floor?
      rcases hparts with ⟨_, hparts⟩ | hparts <;> rw [hparts]
    simp only [Scale.floor, hnone] at h
    split at h <;> cases h

end Scales

end ReleaseSearch.Decimal
