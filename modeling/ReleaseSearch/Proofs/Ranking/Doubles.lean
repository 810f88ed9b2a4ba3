import ReleaseSearch.Proofs.Decimal.Conversion
import ReleaseSearch.Proofs.Ranking.Order
import ReleaseSearch.Proofs.Ranking.Score

/-!
# Scores in doubles

In doubles a computation may leave what is finite, and then there is no whole part to round to.  The
main statement is when this happens to the score of a release: the profile accepts the release, and
its bounds are so wide that their sum is not finite any more.  All other releases are judged, with a
score from 0 to 100.

The reason is that rounding keeps the order.  So the middle of the bounds is between them, a size
that is between the bounds is not farther from the middle than the bounds are from each other, and
what is added up stays below what the greatest parts add up to (`IsWithin`).
-/

namespace ReleaseSearch.Ranking

open Decimal

/-! ## Small measures -/

/-- A double that is worth something from zero to a number of parts, of which there are `2 ^ 20` in
one. -/
def IsWithin (x : Float) (m : Nat) : Prop := ∃ v, IsWorth x v ∧ 0 ≤ v ∧ v ≤ m * 2 ^ (-20 : Int)

section Within

variable {x y : Float} {m n : Nat}

theorem isWithin_of_nearest {v : Rat} (hm : m < 2 ^ 53) (hv : 0 ≤ v) (hle : v ≤ m * 2 ^ (-20 : Int))
    (h : |nearest v| < beyond → IsWorth x (nearest v)) : IsWithin x m := by
  have hnearest := nearestValue_le hv hle hm (by decide)
  have hlt : (m : Rat) * 2 ^ (-20 : Int) < 2 ^ 53 := by
    have hm : (m : Rat) < 2 ^ 53 := by exact_mod_cast hm
    norm_num
    linarith
  rw [nearest_of_nonneg hv, abs_of_nonneg (nearestValue_nonneg hv)] at h
  exact ⟨_, h (lt_beyond_of_lt (hnearest.trans_lt hlt)), nearestValue_nonneg hv, hnearest⟩

theorem isWithin_ratio {num den : Nat} (hden : 0 < den) (hm : m < 2 ^ 53)
    (hle : (num : Rat) / den ≤ m * 2 ^ (-20 : Int)) : IsWithin (Scale.ratio num den) m := by
  have hnonneg : (0 : Rat) ≤ num / den := by positivity
  refine isWithin_of_nearest hm hnonneg hle fun hlt => ?_
  rw [nearest_of_nonneg hnonneg] at hlt ⊢
  exact isWorth_ratio hden ((le_abs_self _).trans_lt hlt)

theorem IsWithin.add (hx : IsWithin x m) (hy : IsWithin y n) (hsum : m + n < 2 ^ 53) :
    IsWithin (x + y) (m + n) := by
  obtain ⟨a, hxa, ha, ham⟩ := hx
  obtain ⟨b, hyb, hb, hbn⟩ := hy
  refine isWithin_of_nearest hsum (add_nonneg ha hb) ?_ (hxa.add hyb)
  push_cast
  linarith

/-- A measure is multiplied by a whole number. -/
theorem IsWithin.mul (hx : IsWithin x m) (hprod : m * n < 2 ^ 53) (hn : n < 2 ^ 53) :
    IsWithin (x * Scale.ratio n 1) (m * n) := by
  obtain ⟨a, hxa, ha, ham⟩ := hx
  refine isWithin_of_nearest hprod (by positivity) ?_ (hxa.mul (isWorth_natCast hn))
  calc a * n ≤ m * 2 ^ (-20 : Int) * n := mul_le_mul_of_nonneg_right ham (Nat.cast_nonneg n)
    _ = (m * n : Nat) * 2 ^ (-20 : Int) := by
        push_cast
        ring

theorem IsWithin.natCast_mul (hx : IsWithin x m) (hprod : m * n < 2 ^ 53) (hn : n < 2 ^ 53) :
    IsWithin (Scale.ratio n 1 * x) (m * n) := by
  obtain ⟨a, hxa, ha, ham⟩ := hx
  refine isWithin_of_nearest hprod (by positivity) ?_ ((isWorth_natCast hn).mul hxa)
  calc n * a ≤ n * (m * 2 ^ (-20 : Int)) := mul_le_mul_of_nonneg_left ham (Nat.cast_nonneg n)
    _ = (m * n : Nat) * 2 ^ (-20 : Int) := by
        push_cast
        ring

theorem IsWithin.mono (hx : IsWithin x m) (hmn : m ≤ n) : IsWithin x n := by
  obtain ⟨a, hxa, ha, ham⟩ := hx
  refine ⟨a, hxa, ha, ham.trans (mul_le_mul_of_nonneg_right ?_ (by positivity))⟩
  exact_mod_cast hmn

/-- A measure is rounded to a whole number that is not above it, up to a half. -/
theorem IsWithin.roundHalfUp (hx : IsWithin x m) (hm : m + 2 ^ 19 < 2 ^ 53) :
    ∃ n, roundHalfUp x = .ok n ∧ 0 ≤ n ∧ n ≤ ((m + 2 ^ 19) / 2 ^ 20 : Nat) := by
  have hhalf : IsWithin (Scale.ratio 1 2) (2 ^ 19) :=
    isWithin_ratio (by decide) (by decide) (by norm_num)
  obtain ⟨v, hworth, hv, hle⟩ := hx.add hhalf hm
  refine ⟨⌊v⌋, ?_, Int.floor_nonneg.mpr hv, ?_⟩
  · unfold Ranking.roundHalfUp Scale.rounded
    rw [hworth.floor_eq hv]
    rfl
  · calc ⌊v⌋ ≤ ⌊((m + 2 ^ 19 : Nat) : Rat) / (2 ^ 20 : Nat)⌋ := by
          refine Int.floor_mono (hle.trans_eq ?_)
          norm_num
          ring
      _ = ((m + 2 ^ 19) / 2 ^ 20 : Nat) := floor_quotient _ _

end Within

/-- Doubles find the share of one resolution in another one. -/
theorem findsShares_float : FindsShares Float := by
  intro found wanted hpos _ hle
  have hshare : IsWithin (Scale.ratio found wanted) (2 ^ 20) := by
    refine isWithin_ratio hpos (by decide) ?_
    rw [div_le_iff₀ (by exact_mod_cast hpos)]
    norm_num
    exact_mod_cast hle
  exact (hshare.mul (by decide) (by decide)).roundHalfUp (by decide)

/-! ## Bounds -/

/-- A double that is not below zero: finite, or beyond all others. -/
inductive IsExtent (x : Float) : Prop
  | finite {a : Rat} (hnonneg : 0 ≤ a) (hworth : IsWorth x a)
  | endless (hendless : IsEndless x)

theorem isExtent_of_atLeast {x : Float} (h : Scale.atLeast x Scale.zero = true) : IsExtent x := by
  have hzero : (Scale.zero : Float).toModel.unpack = .zero .positive := rfl
  have hcompare : (Scale.zero : Float) < x ∨ (x == Scale.zero) = true := by
    rw [← decide_eq_true_iff (p := (Scale.zero : Float) < x)]
    exact (Bool.or_eq_true _ _).mp h
  rw [lt_iff_compare, beq_iff_compare, hzero] at hcompare
  rcases unpack_cases x with hnone | ⟨s, hinfinite⟩ | ⟨a, hworth⟩
  · rw [hnone] at hcompare
    rcases hcompare with h | h <;> cases h
  · cases s with
    | positive => exact .endless hinfinite
    | negative =>
        rw [hinfinite] at hcompare
        rcases hcompare with h | h <;> cases h
  · refine .finite ?_ hworth
    rw [← hzero, compare_represents isWorth_zero hworth, compare_represents hworth isWorth_zero,
      Option.some_inj, Option.some_inj, compare_lt_iff_lt, compare_eq_iff_eq] at hcompare
    exact hcompare.elim le_of_lt ge_of_eq

theorem not_isZero_of_endless {x : Float} (h : IsEndless x) : ¬ Scale.isZero x = true :=
  IsWorth.not_endless_beq (.zero .positive rfl) h

/-! ### In bytes -/

section InBytes

variable {bound : Option Float} {v : Rat}

theorem boundInBytes_eq (bound : Option Float) :
    boundInBytes bound =
      if Scale.isZero (bound.getD Scale.zero) then Scale.zero
      else bound.getD Scale.zero * Scale.ratio bytesPerMegabyte 1 := by
  cases bound with
  | none => exact (if_pos (isWorth_zero.isZero_iff.mpr rfl)).symm
  | some b => rfl

theorem isWorth_bytesPerMegabyte :
    IsWorth (Scale.ratio bytesPerMegabyte 1) (bytesPerMegabyte : Nat) := isWorth_natCast (by decide)

theorem one_le_bytesPerMegabyte : (1 : Rat) ≤ (bytesPerMegabyte : Nat) := by
  rw [Nat.one_le_cast]
  decide

/-- A bound in bytes is worth the nearest value to the product. -/
theorem boundInBytes_isWorth (hworth : IsWorth (bound.getD Scale.zero) v) (hv : 0 ≤ v)
    (hlt : nearestValue (v * bytesPerMegabyte) < beyond) :
    IsWorth (boundInBytes bound) (nearestValue (v * bytesPerMegabyte)) := by
  have hprod : 0 ≤ v * (bytesPerMegabyte : Nat) := mul_nonneg hv (Nat.cast_nonneg _)
  rw [boundInBytes_eq]
  split
  · next hzero =>
    rw [hworth.isZero_iff.mp hzero, zero_mul, nearestValue_zero]
    exact isWorth_zero
  · rw [← nearest_of_nonneg hprod]
    refine hworth.mul isWorth_bytesPerMegabyte ?_
    rwa [nearest_of_nonneg hprod, abs_of_nonneg (nearestValue_nonneg hprod)]

/-- One that is too large for that is beyond all others. -/
theorem boundInBytes_isEndless (hworth : IsWorth (bound.getD Scale.zero) v) (hv : 0 ≤ v)
    (hge : beyond ≤ nearestValue (v * bytesPerMegabyte)) : IsEndless (boundInBytes bound) := by
  have hprod : 0 ≤ v * (bytesPerMegabyte : Nat) := mul_nonneg hv (Nat.cast_nonneg _)
  rw [boundInBytes_eq, if_neg]
  · refine hworth.mul_overflow isWorth_bytesPerMegabyte ?_
    rwa [nearest_of_nonneg hprod]
  · rw [hworth.isZero_iff]
    rintro rfl
    rw [zero_mul, nearestValue_zero] at hge
    exact hge.not_gt beyond_pos

theorem boundInBytes_of_endless (hendless : IsEndless (bound.getD Scale.zero)) :
    IsEndless (boundInBytes bound) := by
  have hpositive : (0 : Rat) < (bytesPerMegabyte : Nat) := one_le_bytesPerMegabyte.trans_lt' one_pos
  rw [boundInBytes_eq, if_neg (not_isZero_of_endless hendless)]
  exact hendless.mul isWorth_bytesPerMegabyte hpositive

/-- A bound that is not below zero, or none. -/
theorem getD_isExtent (h : ∀ b, bound = some b → Scale.atLeast b Scale.zero = true) :
    IsExtent (bound.getD Scale.zero) := by
  cases bound with
  | none => exact .finite le_rfl isWorth_zero
  | some b => exact isExtent_of_atLeast (h b rfl)

theorem boundInBytes_isExtent (h : ∀ b, bound = some b → Scale.atLeast b Scale.zero = true) :
    IsExtent (boundInBytes bound) := by
  cases getD_isExtent h with
  | endless hendless => exact .endless (boundInBytes_of_endless hendless)
  | @finite v hv hworth =>
      rcases lt_or_ge (nearestValue (v * (bytesPerMegabyte : Nat))) beyond with hlt | hge
      · exact .finite (nearestValue_nonneg (mul_nonneg hv (Nat.cast_nonneg _)))
          (boundInBytes_isWorth hworth hv hlt)
      · exact .endless (boundInBytes_isEndless hworth hv hge)

end InBytes

section Size

variable {r : Release} {p : Profile Float}

/-- The least size of a profile that accepts a release is finite, and the release has it. -/
theorem le_size (hlow : IsExtent (minBytes p)) (hnone : sizeRejection? r p = none) :
    ∃ a, IsWorth (minBytes p) a ∧ 0 ≤ a ∧ a ≤ r.size := by
  obtain ⟨hsmall, -⟩ := sizeRejection?_eq_none_iff.mp hnone
  cases hlow with
  | endless hendless =>
      have hless : Scale.less Scale.zero (minBytes p) = true :=
        decide_eq_true (isWorth_zero.lt_endless hendless)
      exact absurd ⟨hless, hendless.compareInt?_eq _⟩ hsmall
  | @finite a hnonneg hworth =>
      refine ⟨a, hworth, hnonneg, ?_⟩
      rcases hnonneg.lt_or_eq with hpos | hzero
      · by_contra hlt
        refine hsmall ⟨(isWorth_zero.less_iff hworth).mpr hpos, ?_⟩
        refine (hworth.compareInt?_eq _).trans (congrArg some (compare_lt_iff_lt.mpr ?_))
        exact_mod_cast not_le.mp hlt
      · rw [← hzero]
        exact Nat.cast_nonneg _

theorem size_le {b : Rat} (hworth : IsWorth (maxBytes p) b) (hpos : 0 < b)
    (hnone : sizeRejection? r p = none) : (r.size : Rat) ≤ b := by
  obtain ⟨-, hlarge⟩ := sizeRejection?_eq_none_iff.mp hnone
  by_contra hgt
  refine hlarge ⟨(isWorth_zero.less_iff hworth).mpr hpos, ?_⟩
  refine (hworth.compareInt?_eq _).trans (congrArg some (compare_gt_iff_gt.mpr ?_))
  exact_mod_cast not_le.mp hgt

/-- The difference of two measures is never too large. -/
theorem isWorth_sub {x y : Float} {a b : Rat} (hx : IsWorth x a) (hy : IsWorth y b) (ha : 0 ≤ a)
    (hb : 0 ≤ b) : IsWorth (x - y) (nearest (a - b)) := by
  refine hx.sub hy ?_
  rw [abs_nearest]
  rcases le_total a b with hab | hba
  · have hle : |a - b| ≤ b := abs_le.mpr ⟨by linarith, by linarith⟩
    exact (hy.nearestValue_le (abs_nonneg _) hle).trans_lt hy.lt_beyond
  · have hle : |a - b| ≤ a := abs_le.mpr ⟨by linarith, by linarith⟩
    exact (hx.nearestValue_le (abs_nonneg _) hle).trans_lt hx.lt_beyond

/-- The sign of a difference is that of the exact one. -/
theorem nearest_sub_pos_iff {x y : Float} {a b : Rat} (hx : IsWorth x a) (hy : IsWorth y b) :
    0 < nearest (b - a) ↔ a < b := by
  constructor
  · intro hpos
    by_contra hle
    rw [← neg_sub a b, nearest_neg, nearest_of_nonneg (by linarith)] at hpos
    linarith [nearestValue_nonneg (v := a - b) (by linarith)]
  · intro hab
    rw [nearest_of_nonneg (by linarith)]
    exact hx.nearestValue_sub_pos hy hab

/-- A sum that is finite is worth the nearest value. -/
theorem isWorth_add_of_finite {x y : Float} {a b : Rat} (hx : IsWorth x a) (hy : IsWorth y b)
    (hsum : 0 ≤ a + b) (hfinite : IsFinite (x + y)) : IsWorth (x + y) (nearestValue (a + b)) := by
  rw [← nearest_of_nonneg hsum]
  refine hx.add hy ?_
  rw [abs_nearest, abs_of_nonneg hsum, ← nearest_of_nonneg hsum]
  exact not_le.mp fun hle => (hx.add_overflow hy hle).not_isFinite hfinite

/-- **The middle is between the bounds**, as rounding keeps the order. -/
theorem exists_middle {x y : Float} {a b : Rat} (hx : IsWorth x a) (hy : IsWorth y b) (ha : 0 ≤ a)
    (hab : a ≤ b) (hfinite : IsFinite (x + y)) :
    ∃ m, IsWorth ((x + y) / Scale.ratio 2 1) m ∧ a ≤ m ∧ m ≤ b := by
  have hb : 0 ≤ b := ha.trans hab
  have hsum := isWorth_add_of_finite hx hy (add_nonneg ha hb) hfinite
  have hlow : 2 * a ≤ nearestValue (a + b) :=
    (hx.nearestValue_two_mul ha).symm.trans_le (nearestValue_mono (by linarith) (by linarith))
  have hhigh : nearestValue (a + b) ≤ 2 * b :=
    (nearestValue_mono (by linarith) (by linarith)).trans_eq (hy.nearestValue_two_mul hb)
  have hhalf : 0 ≤ nearestValue (a + b) / (2 : Nat) := by
    push_cast
    linarith
  -- Both ends are doubles themselves, so rounding does not pass them.
  have hlow' : a ≤ nearestValue (nearestValue (a + b) / (2 : Nat)) := by
    refine hx.le_nearestValue ha ?_
    push_cast
    linarith
  have hhigh' : nearestValue (nearestValue (a + b) / (2 : Nat)) ≤ b := by
    refine hy.nearestValue_le hhalf ?_
    push_cast
    linarith
  refine ⟨_, ?_, hlow', hhigh'⟩
  rw [← nearest_of_nonneg hhalf]
  refine hsum.div (isWorth_natCast (by decide)) (by norm_num) ?_
  rw [nearest_of_nonneg hhalf, abs_of_nonneg (nearestValue_nonneg hhalf)]
  exact hhigh'.trans_lt hy.lt_beyond

/-- **What is between the bounds** is not farther from the middle than the bounds from each
other. -/
theorem isWithin_distance {low high middle size : Float} {a b m s : Rat} (hlow : IsWorth low a)
    (hhigh : IsWorth high b) (hmiddle : IsWorth middle m) (hsize : IsWorth size s)
    (ham : a ≤ m) (hmb : m ≤ b) (has : a ≤ s) (hsb : s ≤ b) (ha : 0 ≤ a) (hab : a < b) :
    IsWithin (Scale.distance (size - middle) / (high - low)) (2 ^ 20) := by
  have hrange := isWorth_sub hhigh hlow (by linarith) ha
  have hpos := (nearest_sub_pos_iff hlow hhigh).mpr hab
  have hdistance := (isWorth_sub hsize hmiddle (by linarith) (by linarith)).distance
  refine isWithin_of_nearest (by decide) (div_nonneg (abs_nonneg _) hpos.le) ?_
    (hdistance.div hrange hpos.ne')
  have hone : ((2 ^ 20 : Nat) : Rat) * 2 ^ (-20 : Int) = 1 := by norm_num
  rw [hone, div_le_one hpos, abs_nearest, nearest_of_nonneg (by linarith)]
  exact nearestValue_mono (abs_nonneg _) (abs_le.mpr ⟨by linarith, by linarith⟩)

/-- The part for the size of a release that is accepted, if the sum of the bounds is finite. -/
theorem exists_sizeScore_of_finite (hlow : IsExtent (minBytes p)) (hhigh : IsExtent (maxBytes p))
    (hnone : sizeRejection? r p = none)
    (hnarrow : Scale.less (minBytes p) (maxBytes p) = true → IsFinite (minBytes p + maxBytes p)) :
    ∃ n, sizeScore r p = .ok n ∧ 0 ≤ n ∧ n ≤ 100 := by
  obtain ⟨a, hworth, ha, has⟩ := le_size hlow hnone
  cases hhigh with
  | endless hendless =>
      have hless : Scale.less (minBytes p) (maxBytes p) = true :=
        decide_eq_true (hworth.lt_endless hendless)
      exact absurd (hnarrow hless).of_add.2 hendless.not_isFinite
  | @finite b hb hworth' =>
      have hrange := isWorth_sub hworth' hworth hb ha
      unfold sizeScore
      dsimp only
      split
      · exact ⟨50, rfl, by omega, by omega⟩
      split
      · exact ⟨50, rfl, by omega, by omega⟩
      next hwide =>
      have hab : a < b := by
        rw [Bool.or_eq_true, hrange.less_iff isWorth_zero, hrange.isZero_iff, ← le_iff_lt_or_eq,
          not_le] at hwide
        exact (nearest_sub_pos_iff hworth hworth').mp hwide
      obtain ⟨m, hmiddle, ham, hmb⟩ := exists_middle hworth hworth' ha hab.le
        (hnarrow ((hworth.less_iff hworth').mpr hab))
      have hsb := size_le hworth' (ha.trans_lt hab) hnone
      -- The size is rounded, too, but not beyond the bounds.
      have has' : a ≤ nearestValue r.size := hworth.le_nearestValue ha has
      have hsb' : nearestValue r.size ≤ b := hworth'.nearestValue_le (Nat.cast_nonneg _) hsb
      obtain ⟨size, hsize, hworth''⟩ := ofInt?_natCast r.size (hsb'.trans_lt hworth'.lt_beyond)
      obtain ⟨loss, hloss, hlow, hhigh⟩ :=
        ((isWithin_distance hworth hworth' hmiddle hworth'' ham hmb has' hsb' ha hab).mul
          (n := 100) (by decide) (by decide)).roundHalfUp (by decide)
      refine ⟨max 0 (100 - loss), ?_, by omega, by omega⟩
      rw [hsize]
      simp only
      rw [hloss]
      rfl

theorem isFinite_of_distance {x : Float} (h : IsFinite (Scale.distance x)) : IsFinite x := by
  unfold Scale.distance at h
  split at h
  · exact h.of_sub
  · exact h

theorem isFinite_of_roundHalfUp {x : Float} {n : Int} (h : roundHalfUp x = .ok n) : IsFinite x :=
  (isFinite_of_floor (mapError_eq_ok_iff.mp h)).of_add.1

/-- The range between two bounds is above zero, and it may be infinite. -/
theorem range_pos {low high : Float} {a : Rat} (hlow : IsWorth low a) (ha : 0 ≤ a)
    (hhigh : IsExtent high) (hless : Scale.less low high = true) :
    ¬ (Scale.less (high - low) Scale.zero || Scale.isZero (high - low)) = true := by
  rw [Bool.or_eq_true]
  cases hhigh with
  | endless hendless =>
      have hrange := hendless.sub hlow
      rintro (hbelow | hzero)
      · exact isWorth_zero.not_endless_lt hrange (of_decide_eq_true hbelow)
      · exact not_isZero_of_endless hrange hzero
  | @finite b hb hworth =>
      have hrange := isWorth_sub hworth hlow hb ha
      have hpos := (nearest_sub_pos_iff hlow hworth).mpr ((hlow.less_iff hworth).mp hless)
      rw [hrange.less_iff isWorth_zero, hrange.isZero_iff, ← le_iff_lt_or_eq]
      exact hpos.not_ge

/-- There is no such part if the sum of the bounds is not finite. -/
theorem sizeScore_of_not_finite (hlow : IsExtent (minBytes p)) (hhigh : IsExtent (maxBytes p))
    (hnone : sizeRejection? r p = none) (hless : Scale.less (minBytes p) (maxBytes p) = true)
    (hnot : ¬ IsFinite (minBytes p + maxBytes p)) : ∃ trouble, sizeScore r p = .error trouble := by
  obtain ⟨a, hworth, ha, has⟩ := le_size hlow hnone
  have hsome : ¬ (Scale.isZero (minBytes p) && Scale.isZero (maxBytes p)) = true := by
    rw [Bool.and_eq_true]
    rintro ⟨-, hzero⟩
    cases hhigh with
    | endless hendless => exact not_isZero_of_endless hendless hzero
    | @finite b hb hworth' =>
        have hab := (hworth.less_iff hworth').mp hless
        rw [hworth'.isZero_iff] at hzero
        linarith
  unfold sizeScore
  dsimp only
  rw [if_neg hsome, if_neg (range_pos hworth ha hhigh hless)]
  cases Scale.ofInt? (α := Float) r.size with
  | none => exact ⟨_, rfl⟩
  | some size =>
      simp only
      cases hloss : roundHalfUp
          (Scale.distance (size - (minBytes p + maxBytes p) / Scale.ratio 2 1) /
            (maxBytes p - minBytes p) * Scale.ratio 100 1) with
      | error trouble => exact ⟨trouble, rfl⟩
      | ok loss =>
          -- A whole loss would be out of a finite sum.
          have hdistance := (isFinite_of_roundHalfUp hloss).of_mul.of_div
          exact absurd (isFinite_of_distance hdistance).of_sub.of_div hnot

/-! ## Scores -/

theorem isWithin_part {n : Int} (tenths : Nat) (hlow : 0 ≤ n) (hhigh : n ≤ 100)
    (htenths : tenths ≤ 4) : IsWithin (part n tenths) (10485800 * tenths) := by
  have htenth : IsWithin (Scale.ratio tenths 10) (104858 * tenths) := by
    refine isWithin_ratio (by decide) (by omega) ?_
    push_cast
    norm_num
    linarith [Nat.cast_nonneg (α := Rat) tenths]
  have hprod : 104858 * tenths * n.toNat ≤ 104858 * tenths * 100 :=
    Nat.mul_le_mul_left _ (by omega)
  exact (htenth.natCast_mul (by omega) (by omega)).mono (by omega)

/-- A score is within its bounds if its parts are. -/
theorem exists_score {quality size : Int} (hquality : qualityScore r p = .ok quality)
    (hsize : sizeScore r p = .ok size) (hquality' : 0 ≤ quality ∧ quality ≤ 100)
    (hsize' : 0 ≤ size ∧ size ≤ 100) : ∃ n, score r p = .ok n ∧ 0 ≤ n ∧ n ≤ 100 := by
  have hsource := sourceScore_bounds r p
  have hseeders := seederScore_bounds r
  have hsum := (((isWithin_part 4 hquality'.1 hquality'.2 (by decide)).add
    (isWithin_part 3 (by omega) hsource.2 (by decide)) (by decide)).add
    (isWithin_part 2 hsize'.1 hsize'.2 (by decide)) (by decide)).add
    (isWithin_part 1 hseeders.1 hseeders.2 (by decide)) (by decide)
  obtain ⟨n, hn, hlow, hhigh⟩ := hsum.roundHalfUp (by decide)
  refine ⟨n, ?_, hlow, hhigh⟩
  unfold score
  rw [hquality, hsize]
  exact hn

end Size

/-! ## What is judged -/

/-- The bounds of a profile leave room for sizes, but their sum is not finite. -/
def isTooWide (p : Profile Float) : Bool :=
  Scale.less (minBytes p) (maxBytes p) && !isFinite (minBytes p + maxBytes p)

theorem isTooWide_iff {p : Profile Float} :
    isTooWide p = true ↔
      Scale.less (minBytes p) (maxBytes p) = true ∧ ¬ IsFinite (minBytes p + maxBytes p) := by
  unfold isTooWide
  rw [Bool.and_eq_true, Bool.not_eq_true', ← Bool.not_eq_true, isFinite_iff]

section Judge

variable {r : Release} {p : Profile Float}

/-- What passes the check of its size has a score, unless the bounds are too wide. -/
theorem exists_score_of_fits (hsound : p.rules.AreSound) (hfits : sizeRejection? r p = none) :
    if isTooWide p = true then ∃ trouble, score r p = .error trouble
    else ∃ n, score r p = .ok n ∧ 0 ≤ n ∧ n ≤ 100 := by
  have hlow : IsExtent (minBytes p) := boundInBytes_isExtent hsound.minSize
  have hhigh : IsExtent (maxBytes p) := boundInBytes_isExtent hsound.maxSize
  obtain ⟨quality, hquality, hquality', hquality'', _⟩ := exists_qualityScore findsShares_float r p
  split
  · next hwide =>
    obtain ⟨hless, hnot⟩ := isTooWide_iff.mp hwide
    obtain ⟨trouble, htrouble⟩ := sizeScore_of_not_finite hlow hhigh hfits hless hnot
    refine ⟨trouble, ?_⟩
    unfold score
    rw [hquality, htrouble]
    rfl
  · next hnarrow =>
    obtain ⟨size, hsize, hsize'⟩ := exists_sizeScore_of_finite hlow hhigh hfits fun hless =>
      not_not.mp fun hnot => hnarrow (isTooWide_iff.mpr ⟨hless, hnot⟩)
    exact exists_score hquality hsize ⟨hquality', hquality''⟩ hsize'

theorem fits_of_rejection? (h : rejection? r p = none) : sizeRejection? r p = none :=
  (Option.or_eq_none_iff.mp h).2

theorem judge_eq_error_iff (hsound : p.rules.AreSound) :
    (∃ trouble, judge r p = .error trouble) ↔ rejection? r p = none ∧ isTooWide p = true := by
  unfold judge
  cases hrejection : rejection? r p with
  | some reason => exact iff_of_false (fun ⟨_, h⟩ => nomatch h) fun h => nomatch h.1
  | none =>
      have hscore := exists_score_of_fits hsound (fits_of_rejection? hrejection)
      simp only [map_eq_error_iff, true_and]
      split at hscore
      · next hwide => exact iff_of_true hscore hwide
      · next hnarrow =>
        obtain ⟨n, hn, _⟩ := hscore
        rw [hn]
        exact iff_of_false (fun ⟨_, h⟩ => nomatch h) hnarrow

theorem score_within (hsound : p.rules.AreSound) {n : Int}
    (haccepted : judge r p = .ok (.accepted n)) : 0 ≤ n ∧ n ≤ 100 := by
  obtain ⟨_, hfits, hn⟩ := judge_eq_accepted_iff.mp haccepted
  have hscore := exists_score_of_fits hsound hfits
  rw [hn] at hscore
  split at hscore
  · exact nomatch hscore.choose_spec
  · obtain ⟨n', hn', hwithin⟩ := hscore
    cases hn'
    exact hwithin

end Judge

/-- A list is ranked if each of its releases is judged, and only then. -/
theorem canJudge_iff {α : Type} [Scale α] {p : Profile α} {rs : List Release} :
    CanJudge p rs ↔ ∃ out, rank rs p = .ok out := by
  refine ⟨fun h => ⟨_, rank_eq h⟩, ?_⟩
  rintro ⟨out, hout⟩
  obtain ⟨found, hfound, -⟩ := map_eq_ok_iff.mp hout
  clear hout
  generalize 0 = first at hfound
  induction rs generalizing first found with
  | nil => exact fun _ h => nomatch h
  | cons r rs ih =>
      unfold acceptedFrom at hfound
      obtain ⟨verdict, hverdict, hrest⟩ := bind_eq_ok_iff.mp hfound
      obtain ⟨rest, hrest, -⟩ := bind_eq_ok_iff.mp hrest
      intro r' hr'
      rcases List.mem_cons.mp hr' with rfl | hr'
      · exact ⟨verdict, hverdict⟩
      · exact ih _ _ hrest r' hr'

/-- **What is judged in doubles.**

* A release is judged, unless it passes all checks and the bounds are too wide.
* The score of one that is accepted is from 0 to 100.
* A list is ranked, unless there is such a release in it. -/
theorem judge_ends {p : Profile Float} (hsound : p.rules.AreSound) :
    (∀ r, (∃ trouble, judge r p = .error trouble) ↔
      rejection? r p = none ∧ isTooWide p = true) ∧
    (∀ r n, judge r p = .ok (.accepted n) → 0 ≤ n ∧ n ≤ 100) ∧
    ∀ rs, (∃ trouble, rank rs p = .error trouble) ↔
      (∃ r ∈ rs, rejection? r p = none) ∧ isTooWide p = true := by
  refine ⟨fun r => judge_eq_error_iff hsound, fun r n => score_within hsound, fun rs => ?_⟩
  have hmissing {β : Type} {x : Except Breakdown β} :
      (∃ trouble, x = .error trouble) ↔ ¬ ∃ a, x = .ok a := by
    cases x with
    | ok a => simp
    | error trouble => simp
  rw [hmissing, ← canJudge_iff]
  unfold CanJudge
  simp only [not_forall, exists_prop, ← hmissing, judge_eq_error_iff hsound, ← and_assoc,
    exists_and_right]

/-! ## Bounds that are too wide -/

/-- A profile that accepts one resolution, with bounds on the size in megabytes. -/
def bounded (low high : Option Float) : Profile Float where
  qualities := ["1080p"]
  rules := { minSize := low, maxSize := high }

theorem bounded_areSound {low high : Option Float}
    (hlow : low.all (Scale.atLeast · Scale.zero) = true)
    (hhigh : high.all (Scale.atLeast · Scale.zero) = true) : (bounded low high).rules.AreSound := by
  constructor
  · rintro bound hbound
    obtain rfl : low = some bound := hbound
    exact hlow
  · rintro bound hbound
    obtain rfl : high = some bound := hbound
    exact hhigh

def sized (size : Nat) : Release where
  title := "Sample"
  indexer := "sample"
  size := size
  downloadUrl := "https://example.org/sample"
  quality := some { resolution := some "1080p" }

/-- Between 700 and 20000 megabytes every list is ranked, and without end none with a release that
passes the checks. -/
theorem judge_ends_samples :
    (bounded (some 700) (some 20000)).rules.AreSound ∧
      (bounded none (some infinity)).rules.AreSound ∧
      (∀ rs, ¬ ∃ trouble, rank rs (bounded (some 700) (some 20000)) = .error trouble) ∧
      ∃ trouble,
        rank [sized 0, sized (2 ^ 30)] (bounded none (some infinity)) = .error trouble := by
  have hsound : (bounded (some 700) (some 20000)).rules.AreSound :=
    bounded_areSound (by decide +kernel) (by decide +kernel)
  have hsound' : (bounded none (some infinity)).rules.AreSound :=
    bounded_areSound (by decide +kernel) (by decide +kernel)
  have hnarrow : isTooWide (bounded (some 700) (some 20000)) = false := by decide +kernel
  have hwide : isTooWide (bounded none (some infinity)) = true := by decide +kernel
  have hpasses : rejection? (sized 0) (bounded none (some infinity)) = none := by decide +kernel
  refine ⟨hsound, hsound', fun rs htrouble => ?_, ?_⟩
  · have hwide' := (((judge_ends hsound).2.2 rs).mp htrouble).2
    rw [hnarrow] at hwide'
    cases hwide'
  · exact ((judge_ends hsound').2.2 _).mpr ⟨⟨_, List.mem_cons_self, hpasses⟩, hwide⟩

/-- Without end to the bounds the loss of a release is no number. -/
theorem endless_breaksDown :
    Scale.atLeast infinity Scale.zero = true ∧
      judge (sized (2 ^ 30)) (bounded none (some infinity)) = .error (.badValue none) := by
  decide +kernel

end ReleaseSearch.Ranking
