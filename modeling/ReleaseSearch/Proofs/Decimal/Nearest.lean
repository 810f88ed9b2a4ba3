import Mathlib.Algebra.Order.Field.Power
import Mathlib.Algebra.Order.Round
import Mathlib.Data.Int.Log
import Mathlib.Data.Rat.Floor
import Mathlib.Tactic.Linarith
import Mathlib.Tactic.Positivity

/-!
# The value that a double has for a fraction

A fraction that is not below zero is rounded to a multiple of a power of two (`grid`), which leaves
53 binary digits, or fewer of them near zero.  How large a double can be is left out here.  Rounding
keeps the order, and it keeps what has few enough digits:

    v ≤ w → nearestValue v ≤ nearestValue w
    nearestValue (m * 2 ^ e) = m * 2 ^ e
-/

namespace ReleaseSearch.Decimal

/-! ## Whole numbers -/

/-- The whole number nearest to a fraction; of two that are equally near, the even one. -/
def nearestWhole (x : Rat) : Int :=
  if Int.fract x < 1 / 2 then ⌊x⌋
  else if Int.fract x = 1 / 2 then ⌊x⌋ + ⌊x⌋ % 2
  else ⌊x⌋ + 1

@[simp] theorem nearestWhole_intCast (n : Int) : nearestWhole n = n := by
  simp [nearestWhole]

theorem nearestWhole_bounds (x : Rat) : ⌊x⌋ ≤ nearestWhole x ∧ nearestWhole x ≤ ⌊x⌋ + 1 := by
  unfold nearestWhole
  split
  · omega
  · split <;> omega

theorem nearestWhole_mono {x y : Rat} (h : x ≤ y) : nearestWhole x ≤ nearestWhole y := by
  rcases (Int.floor_mono h).lt_or_eq with hlt | heq
  · have := nearestWhole_bounds x
    have := nearestWhole_bounds y
    omega
  · -- Both are between the same two whole numbers.
    have hfract : Int.fract x ≤ Int.fract y := by
      unfold Int.fract
      rw [heq]
      linarith
    rcases lt_trichotomy (Int.fract x) (1 / 2) with hx | hx | hx
    · have hbelow : nearestWhole x = ⌊y⌋ := by rw [nearestWhole, if_pos hx, heq]
      rw [hbelow]
      exact (nearestWhole_bounds y).1
    · have hy : ¬ Int.fract y < 1 / 2 := by linarith
      unfold nearestWhole
      rw [heq, if_neg hx.not_lt, if_pos hx, if_neg hy]
      split <;> omega
    · have hy : ¬ Int.fract y < 1 / 2 := by linarith
      unfold nearestWhole
      rw [heq, if_neg hx.not_gt, if_neg hx.ne', if_neg hy, if_neg (hx.trans_le hfract).ne']

/-! ## The grid -/

/-- The power of two of which the values near a fraction are multiples. -/
def grid (v : Rat) : Int := max (Int.log 2 v - 52) (-1074)

theorem finest_le_grid (v : Rat) : -1074 ≤ grid v := le_max_right _ _

theorem grid_mono {v w : Rat} (hv : 0 < v) (h : v ≤ w) : grid v ≤ grid w := by
  have := Int.log_mono_right (b := 2) hv h
  unfold grid
  omega

/-- On its grid a fraction has at most 53 binary digits. -/
theorem div_grid_lt (v : Rat) : v / 2 ^ grid v < 2 ^ 53 := by
  have hlog : v < 2 ^ (Int.log 2 v + 1) := by
    exact_mod_cast Int.lt_zpow_succ_log_self (by decide : 1 < 2) v
  rw [div_lt_iff₀ (by positivity), ← zpow_natCast, ← zpow_add₀ two_ne_zero]
  refine hlog.trans_le (zpow_le_zpow_right₀ one_le_two ?_)
  unfold grid
  push_cast
  omega

/-- It has all of them if the grid is not the finest one. -/
theorem le_div_grid {v : Rat} (hv : 0 < v) (hgrid : -1074 < grid v) :
    (2 : Rat) ^ 52 ≤ v / 2 ^ grid v := by
  have hlog : (2 : Rat) ^ Int.log 2 v ≤ v := by
    exact_mod_cast Int.zpow_log_le_self (by decide : 1 < 2) hv
  rw [le_div_iff₀ (by positivity), ← zpow_natCast, ← zpow_add₀ two_ne_zero]
  refine le_trans (zpow_le_zpow_right₀ one_le_two ?_) hlog
  unfold grid at hgrid ⊢
  push_cast
  omega

/-- The binary logarithm of a quotient, up to one. -/
theorem log_div_bounds {a b : Rat} (ha : 0 < a) (hb : 0 < b) :
    Int.log 2 a - Int.log 2 b - 1 ≤ Int.log 2 (a / b) ∧
      Int.log 2 (a / b) ≤ Int.log 2 a - Int.log 2 b := by
  have htwo : ((2 : Nat) : Rat) ≠ 0 := by norm_num
  have hquotient : 0 < a / b := by positivity
  -- each number lies between two neighbouring powers of two
  have hlow := Int.zpow_log_le_self (b := 2) (by decide) ha
  have hlow' := Int.zpow_log_le_self (b := 2) (by decide) hb
  have hhigh := Int.lt_zpow_succ_log_self (b := 2) (by decide) a
  have hhigh' := Int.lt_zpow_succ_log_self (b := 2) (by decide) b
  constructor
  · rw [← Int.zpow_le_iff_le_log (by decide : 1 < 2) hquotient, le_div_iff₀ hb]
    calc ((2 : Nat) : Rat) ^ (Int.log 2 a - Int.log 2 b - 1) * b
        ≤ (2 : Nat) ^ (Int.log 2 a - Int.log 2 b - 1) * (2 : Nat) ^ (Int.log 2 b + 1) :=
          mul_le_mul_of_nonneg_left hhigh'.le (by positivity)
      _ = (2 : Nat) ^ Int.log 2 a := by
          rw [← zpow_add₀ htwo]
          congr 1
          ring
      _ ≤ a := hlow
  · refine Int.lt_add_one_iff.mp ((Int.lt_zpow_iff_log_lt (by decide : 1 < 2) hquotient).mp ?_)
    rw [div_lt_iff₀ hb]
    calc a < ((2 : Nat) : Rat) ^ (Int.log 2 a + 1) := hhigh
      _ = (2 : Nat) ^ (Int.log 2 a - Int.log 2 b + 1) * (2 : Nat) ^ Int.log 2 b := by
          rw [← zpow_add₀ htwo]
          congr 1
          ring
      _ ≤ (2 : Nat) ^ (Int.log 2 a - Int.log 2 b + 1) * b :=
          mul_le_mul_of_nonneg_left hlow' (by positivity)

/-! ## Values -/

def nearestValue (v : Rat) : Rat := nearestWhole (v / 2 ^ grid v) * 2 ^ grid v

@[simp] theorem nearestValue_zero : nearestValue 0 = 0 := by
  have hzero : nearestWhole 0 = 0 := by exact_mod_cast nearestWhole_intCast 0
  simp [nearestValue, hzero]

theorem nearestWhole_div_nonneg {v : Rat} (hv : 0 ≤ v) : 0 ≤ nearestWhole (v / 2 ^ grid v) := by
  have hzero : nearestWhole ((0 : Int) : Rat) ≤ nearestWhole (v / 2 ^ grid v) :=
    nearestWhole_mono (by push_cast; positivity)
  rwa [nearestWhole_intCast] at hzero

theorem nearestWhole_div_le (v : Rat) : nearestWhole (v / 2 ^ grid v) ≤ 2 ^ 53 := by
  have hle : nearestWhole (v / 2 ^ grid v) ≤ nearestWhole ((2 ^ 53 : Int) : Rat) :=
    nearestWhole_mono (by push_cast; exact (div_grid_lt v).le)
  rwa [nearestWhole_intCast] at hle

theorem le_nearestWhole_div {v : Rat} (hv : 0 < v) (hgrid : -1074 < grid v) :
    2 ^ 52 ≤ nearestWhole (v / 2 ^ grid v) := by
  have hle : nearestWhole ((2 ^ 52 : Int) : Rat) ≤ nearestWhole (v / 2 ^ grid v) :=
    nearestWhole_mono (by push_cast; exact le_div_grid hv hgrid)
  rwa [nearestWhole_intCast] at hle

/-- The rounded mantissa of a fraction, and the length that it may have. -/
theorem nearestValue_mantissa {v : Rat} (hv : 0 < v) {q : Nat}
    (hq : (q : Int) = nearestWhole (v / 2 ^ grid v)) :
    q ≤ 2 ^ 53 ∧ (2 ^ 52 ≤ q ∨ grid v = -1074) ∧ nearestValue v = q * 2 ^ grid v := by
  refine ⟨by exact_mod_cast hq.trans_le (nearestWhole_div_le v), ?_, ?_⟩
  · rcases (finest_le_grid v).lt_or_eq with hlt | heq
    · exact .inl (by exact_mod_cast (le_nearestWhole_div hv hlt).trans_eq hq.symm)
    · exact .inr heq.symm
  · unfold nearestValue
    rw [← hq, Int.cast_natCast]

theorem nearestValue_nonneg {v : Rat} (hv : 0 ≤ v) : 0 ≤ nearestValue v := by
  have hwhole : (0 : Rat) ≤ nearestWhole (v / 2 ^ grid v) := by
    exact_mod_cast nearestWhole_div_nonneg hv
  unfold nearestValue
  positivity

/-- **Rounding keeps the order.**  Fractions on one grid are rounded alike, and between two grids
there is a power of two. -/
theorem nearestValue_mono {v w : Rat} (hv : 0 ≤ v) (h : v ≤ w) :
    nearestValue v ≤ nearestValue w := by
  rcases hv.eq_or_lt with rfl | hpos
  · rw [nearestValue_zero]
    exact nearestValue_nonneg h
  -- On one grid rounding is monotone. On two, all of the finer one lies below the coarser one.
  rcases (grid_mono hpos h).lt_or_eq with hlt | heq
  · have hhigh : (nearestWhole (v / 2 ^ grid v) : Rat) ≤ 2 ^ 53 := by
      exact_mod_cast nearestWhole_div_le v
    have hfiner := finest_le_grid v
    have hlow : (2 : Rat) ^ 52 ≤ nearestWhole (w / 2 ^ grid w) := by
      exact_mod_cast le_nearestWhole_div (hpos.trans_le h) (by omega)
    calc nearestValue v ≤ 2 ^ 53 * 2 ^ grid v := mul_le_mul_of_nonneg_right hhigh (by positivity)
      _ = 2 ^ 52 * 2 ^ (grid v + 1) := by
          rw [zpow_add_one₀ two_ne_zero]
          ring
      _ ≤ 2 ^ 52 * 2 ^ grid w :=
          mul_le_mul_of_nonneg_left (zpow_le_zpow_right₀ one_le_two (by omega)) (by positivity)
      _ ≤ nearestValue w := mul_le_mul_of_nonneg_right hlow (by positivity)
  · have hwhole : (nearestWhole (v / 2 ^ grid w) : Rat) ≤ nearestWhole (w / 2 ^ grid w) := by
      exact_mod_cast nearestWhole_mono (div_le_div_of_nonneg_right h (by positivity))
    unfold nearestValue
    rw [heq]
    exact mul_le_mul_of_nonneg_right hwhole (by positivity)

/-- A multiple of a power of two with few digits is on its own grid. -/
theorem grid_le {m : Nat} {e : Int} (hm : m < 2 ^ 53) (he : -1074 ≤ e) (hpos : 0 < m) :
    grid (m * 2 ^ e) ≤ e := by
  have hpos' : (0 : Rat) < m * 2 ^ e := by positivity
  have hlt : ((m : Rat) * 2 ^ e) < ((2 : Nat) : Rat) ^ (e + 53) := by
    rw [zpow_add₀ (by norm_num), mul_comm (_ ^ e)]
    refine mul_lt_mul_of_pos_right ?_ (by positivity)
    exact_mod_cast hm
  have hlog := (Int.lt_zpow_iff_log_lt (by decide : 1 < 2) hpos').mp hlt
  unfold grid
  omega

/-- **Rounding keeps what has few digits.** -/
theorem nearestValue_eq_self {m : Nat} {e : Int} (hm : m < 2 ^ 53) (he : -1074 ≤ e) :
    nearestValue (m * 2 ^ e) = m * 2 ^ e := by
  rcases Nat.eq_zero_or_pos m with rfl | hpos
  · simp
  obtain ⟨k, hk⟩ := Int.eq_ofNat_of_zero_le (Int.sub_nonneg.mpr (grid_le hm he hpos))
  have hwhole : (m : Rat) * 2 ^ e / 2 ^ grid (m * 2 ^ e) = ((m * 2 ^ k : Int) : Rat) := by
    rw [mul_div_assoc, ← zpow_sub₀ two_ne_zero, hk]
    push_cast
    rw [zpow_natCast]
  unfold nearestValue
  rw [hwhole, nearestWhole_intCast, ← hwhole]
  exact div_mul_cancel₀ _ (by positivity)

theorem nearestValue_le {v : Rat} {m : Nat} {e : Int} (hv : 0 ≤ v) (h : v ≤ m * 2 ^ e)
    (hm : m < 2 ^ 53) (he : -1074 ≤ e) : nearestValue v ≤ m * 2 ^ e :=
  (nearestValue_mono hv h).trans_eq (nearestValue_eq_self hm he)

theorem le_nearestValue {v : Rat} {m : Nat} {e : Int} (h : (m : Rat) * 2 ^ e ≤ v)
    (hm : m < 2 ^ 53) (he : -1074 ≤ e) : (m : Rat) * 2 ^ e ≤ nearestValue v :=
  (nearestValue_eq_self hm he).symm.trans_le (nearestValue_mono (by positivity) h)

/-! ## Signs -/

def nearest (v : Rat) : Rat := if v < 0 then -nearestValue (-v) else nearestValue v

theorem nearest_of_nonneg {v : Rat} (hv : 0 ≤ v) : nearest v = nearestValue v := if_neg hv.not_gt

theorem nearest_neg (v : Rat) : nearest (-v) = -nearest v := by
  unfold nearest
  rcases lt_trichotomy v 0 with hv | rfl | hv
  · rw [if_neg (by linarith), if_pos hv, neg_neg]
  · simp
  · rw [if_pos (by linarith), if_neg hv.not_gt, neg_neg]

theorem abs_nearest (v : Rat) : |nearest v| = nearestValue |v| := by
  rcases le_or_gt 0 v with hv | hv
  · rw [nearest_of_nonneg hv, abs_of_nonneg hv, abs_of_nonneg (nearestValue_nonneg hv)]
  · have hv' : 0 ≤ -v := by linarith
    rw [← neg_neg v, nearest_neg, abs_neg, abs_neg, nearest_of_nonneg hv', abs_of_nonneg hv',
      abs_of_nonneg (nearestValue_nonneg hv')]

end ReleaseSearch.Decimal
