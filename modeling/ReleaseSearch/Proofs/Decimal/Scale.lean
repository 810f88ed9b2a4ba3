import Mathlib.Algebra.Order.Field.Rat
import Mathlib.Tactic.NormNum
import ReleaseSearch.Decimal.Scale

/-!
# Exact arithmetic for measures

Over exact fractions the operations of a `Scale` are the usual ones.  The lemmas here say so, as
rules for `simp`, so that what is computed over a scale can be reasoned about in an ordered field.
-/

namespace ReleaseSearch.Decimal.Scale

@[simp] theorem less_eq_true_iff {x y : Rat} : less x y = true ↔ x < y := by
  show decide (x < y) = true ↔ x < y
  rw [decide_eq_true_iff]

@[simp] theorem equal_eq_true_iff {x y : Rat} : equal x y = true ↔ x = y := by
  show (x == y) = true ↔ x = y
  rw [beq_iff_eq]

@[simp] theorem atLeast_eq_true_iff {x y : Rat} : atLeast x y = true ↔ y ≤ x := by
  unfold atLeast
  rw [Bool.or_eq_true, less_eq_true_iff, equal_eq_true_iff, le_iff_lt_or_eq, eq_comm (a := x)]

@[simp] theorem isZero_eq_true_iff {x : Rat} : isZero x = true ↔ x = 0 := by
  show (x == 0) = true ↔ x = 0
  rw [beq_iff_eq]

@[simp] theorem ratio_eq_div (num den : Nat) : (ratio num den : Rat) = num / den := rfl

@[simp] theorem zero_eq : (zero : Rat) = 0 := by
  show ((0 : Nat) : Rat) / ((1 : Nat) : Rat) = 0
  norm_num

@[simp] theorem ofInt_eq_cast (n : Int) : (ofInt n : Rat) = n := rfl

@[simp] theorem distance_eq_abs (x : Rat) : distance x = |x| := by
  unfold distance
  rw [zero_eq]
  by_cases h : x < 0
  · rw [if_pos (less_eq_true_iff.mpr h), abs_of_neg h, zero_sub]
  · rw [if_neg (mt less_eq_true_iff.mp h), abs_of_nonneg (not_lt.mp h)]

theorem compareInt?_eq_lt_iff {n : Int} {x : Rat} : compareInt? n x = some .lt ↔ (n : Rat) < x := by
  show some (if (n : Rat) < x then Ordering.lt else if (n : Rat) = x then .eq else .gt) = _ ↔ _
  by_cases h : (n : Rat) < x
  · simp [h]
  · by_cases h' : (n : Rat) = x <;> simp [h, h']

theorem compareInt?_eq_gt_iff {n : Int} {x : Rat} : compareInt? n x = some .gt ↔ x < (n : Rat) := by
  show some (if (n : Rat) < x then Ordering.lt else if (n : Rat) = x then .eq else .gt) = _ ↔ _
  rcases lt_trichotomy (n : Rat) x with h | h | h
  · simp [h, h.le]
  · simp [h]
  · simp [h.not_gt, h.ne', h]

@[simp] theorem least_eq_min (x y : Rat) : least x y = min x y := by
  unfold least
  by_cases h : y < x
  · rw [if_pos (less_eq_true_iff.mpr h), min_eq_right h.le]
  · rw [if_neg (mt less_eq_true_iff.mp h), min_eq_left (not_lt.mp h)]

end ReleaseSearch.Decimal.Scale
