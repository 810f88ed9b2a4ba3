import ReleaseSearch.Proofs.Ranking.Doubles

/-!
# Profiles that ask for less

A profile is looser than another one if it accepts all of its resolutions, asks for no larger least
size, and allows for no smaller largest one.  The main statement is that a looser profile rejects
nothing that the other one accepts, in doubles and for sizes of any magnitude:

    judge r p = .ok (.accepted n)   gives   judge r q = .ok (.accepted m)

unless the bounds of the looser one are too wide to compute a score with.

Nothing is said of bounds in megabytes but their order.  The bounds in bytes are rounded products of
them, and rounding keeps the order (`IsAtMost.boundInBytes`); one that has become too large is above
every size.
-/

namespace ReleaseSearch

open Decimal

/-- A profile asks for no more than another one.  A least size that is missing counts as zero, and a
largest one that is missing or zero as none. -/
structure Profile.IsLooserThan {α : Type} [Scale α] (q p : Profile α) : Prop where
  qualities : p.qualities ⊆ q.qualities
  minSize : Scale.atLeast (p.rules.minSize.getD Scale.zero) (q.rules.minSize.getD Scale.zero) = true
  maxSize : Scale.isZero (q.rules.maxSize.getD Scale.zero) = true ∨
    Scale.less Scale.zero (p.rules.maxSize.getD Scale.zero) = true ∧
      Scale.atLeast (q.rules.maxSize.getD Scale.zero) (p.rules.maxSize.getD Scale.zero) = true

namespace Ranking

/-! ## The order of bounds -/

/-- A double is not above another one, which may be beyond all others. -/
inductive IsAtMost (x y : Float) : Prop
  | finite {a b : Rat} (hx : IsWorth x a) (hy : IsWorth y b) (hle : a ≤ b)
  | endless (hy : IsEndless y)

section Bounds

variable {x y : Float} {low high : Option Float}

theorem not_isEndless {a : Rat} (hx : IsWorth x a) : ¬ IsEndless x :=
  fun hendless => hendless.not_isFinite hx.isFinite

theorem isAtMost_of_atLeast (hx : IsExtent x) (hy : IsExtent y)
    (h : Scale.atLeast y x = true) : IsAtMost x y := by
  have hcompare : x < y ∨ (y == x) = true := by
    rw [← decide_eq_true_iff (p := x < y)]
    exact (Bool.or_eq_true _ _).mp h
  cases hy with
  | endless hendless => exact .endless hendless
  | @finite b _ hb =>
      cases hx with
      | endless hendless =>
          exact absurd hcompare
            (not_or.mpr ⟨hb.not_endless_lt hendless, hb.not_beq_endless hendless⟩)
      | @finite a _ ha =>
          rw [ha.lt_iff hb, hb.beq_iff ha] at hcompare
          exact .finite ha hb (hcompare.elim le_of_lt ge_of_eq)

/-- What is not above a double with a worth has a worth, too. -/
theorem IsAtMost.exists_le {b : Rat} (h : IsAtMost x y) (hy : IsWorth y b) :
    ∃ a, IsWorth x a ∧ a ≤ b := by
  cases h with
  | endless hendless => exact absurd hendless (not_isEndless hy)
  | @finite a b' ha hb hle =>
      obtain rfl := hb.unique hy
      exact ⟨a, ha, hle⟩

theorem IsExtent.nonneg {a : Rat} (h : IsExtent x) (hx : IsWorth x a) : 0 ≤ a := by
  cases h with
  | endless hendless => exact absurd hendless (not_isEndless hx)
  | @finite a' hnonneg ha => exact hnonneg.trans_eq (ha.unique hx)

/-- **Bounds in bytes are in the order of the bounds in megabytes.** -/
theorem IsAtMost.boundInBytes (h : IsAtMost (low.getD Scale.zero) (high.getD Scale.zero))
    (hextent : IsExtent (low.getD Scale.zero)) :
    IsAtMost (boundInBytes low) (boundInBytes high) := by
  cases h with
  | endless hendless => exact .endless (boundInBytes_of_endless hendless)
  | @finite a b ha hb hle =>
      have hnonneg : 0 ≤ a := hextent.nonneg ha
      have hnonneg' : 0 ≤ b := hnonneg.trans hle
      rcases lt_or_ge (nearestValue (b * (bytesPerMegabyte : Nat))) beyond with hlt | hge
      · have hmono : nearestValue (a * (bytesPerMegabyte : Nat)) ≤
            nearestValue (b * (bytesPerMegabyte : Nat)) :=
          nearestValue_mono (mul_nonneg hnonneg (Nat.cast_nonneg _))
            (mul_le_mul_of_nonneg_right hle (Nat.cast_nonneg _))
        exact .finite (boundInBytes_isWorth ha hnonneg (hmono.trans_lt hlt))
          (boundInBytes_isWorth hb hnonneg' hlt) hmono
      · exact .endless (boundInBytes_isEndless hb hnonneg' hge)

/-- A bound above zero is above zero in bytes, too. -/
theorem boundInBytes_pos {b : Rat} (hpos : Scale.less Scale.zero (low.getD Scale.zero) = true)
    (hextent : IsExtent (low.getD Scale.zero)) (hb : IsWorth (boundInBytes low) b) : 0 < b := by
  cases hextent with
  | endless hendless => exact absurd (boundInBytes_of_endless hendless) (not_isEndless hb)
  | @finite v hv hworth =>
      have hv' : 0 < v := (isWorth_zero.less_iff hworth).mp hpos
      rcases lt_or_ge (nearestValue (v * (bytesPerMegabyte : Nat))) beyond with hlt | hge
      · -- The product is not below the bound itself, so it is not rounded to zero.
        have hle : v ≤ nearestValue (v * (bytesPerMegabyte : Nat)) :=
          hworth.le_nearestValue hv (le_mul_of_one_le_right hv one_le_bytesPerMegabyte)
        rw [hb.unique (boundInBytes_isWorth hworth hv hlt)]
        exact hv'.trans_le hle
      · exact absurd (boundInBytes_isEndless hworth hv hge) (not_isEndless hb)

theorem boundInBytes_of_isZero (h : Scale.isZero (high.getD Scale.zero) = true) :
    Ranking.boundInBytes high = Scale.zero := by
  rw [boundInBytes_eq, if_pos h]

end Bounds

/-! ## What passes the checks -/

section Checks

variable {r : Release} {p q : Profile Float}

/-- A size that is not too small stays so under a smaller bound. -/
theorem not_tooSmall_of_isAtMost (hp : p.rules.AreSound) (h : IsAtMost (minBytes q) (minBytes p))
    (hfits : sizeRejection? r p = none) : Scale.compareInt? r.size (minBytes q) ≠ some .lt := by
  obtain ⟨a, ha, -, hsize⟩ := le_size (boundInBytes_isExtent hp.minSize) hfits
  obtain ⟨b, hb, hle⟩ := h.exists_le ha
  intro hlt
  have hcompare := (hb.compareInt?_eq r.size).symm.trans hlt
  rw [Option.some_inj, compare_lt_iff_lt, Int.cast_natCast] at hcompare
  exact hcompare.not_ge (hle.trans hsize)

/-- One that is not too large stays so under a larger bound. -/
theorem not_tooLarge_of_isAtMost (hpos : ∀ b, IsWorth (maxBytes p) b → 0 < b)
    (h : IsAtMost (maxBytes p) (maxBytes q)) (hfits : sizeRejection? r p = none) :
    Scale.compareInt? r.size (maxBytes q) ≠ some .gt := by
  cases h with
  | endless hendless =>
      have hless : Scale.compareInt? r.size (maxBytes q) = some .lt := hendless.compareInt?_eq _
      simp [hless]
  | @finite a b ha hb hle =>
      have hsize : (r.size : Rat) ≤ a := size_le ha (hpos a ha) hfits
      intro hgt
      have hcompare := (hb.compareInt?_eq r.size).symm.trans hgt
      rw [Option.some_inj, compare_gt_iff_gt, Int.cast_natCast] at hcompare
      exact hcompare.not_ge (hsize.trans hle)

/-- **What passes the checks of a profile passes those of a looser one.** -/
theorem rejection?_of_isLooserThan (hp : p.rules.AreSound) (hq : q.rules.AreSound)
    (h : q.IsLooserThan p) (hpasses : rejection? r p = none) : rejection? r q = none := by
  obtain ⟨hquality, hfits⟩ := Option.or_eq_none_iff.mp hpasses
  refine Option.or_eq_none_iff.mpr ⟨?_, sizeRejection?_eq_none_iff.mpr ⟨?_, ?_⟩⟩
  · obtain ⟨hknown, hallowed⟩ := qualityRejection?_eq_none_iff.mp hquality
    obtain ⟨label, hlabel, hmem⟩ := isAllowed_iff.mp hallowed
    have hallowed' : isAllowed r q = true := isAllowed_iff.mpr ⟨label, hlabel, h.qualities hmem⟩
    exact qualityRejection?_eq_none_iff.mpr ⟨hknown, hallowed'⟩
  -- a smaller lower bound
  · rintro ⟨-, hlt⟩
    have hmin := isAtMost_of_atLeast (getD_isExtent hq.minSize) (getD_isExtent hp.minSize) h.minSize
    exact not_tooSmall_of_isAtMost hp (hmin.boundInBytes (getD_isExtent hq.minSize)) hfits hlt
  -- a larger upper bound, or none
  · rintro ⟨hless, hgt⟩
    rcases h.maxSize with hnone | ⟨hpos, hmax⟩
    · rw [maxBytes, boundInBytes_of_isZero hnone, isWorth_zero.less_iff isWorth_zero] at hless
      exact lt_irrefl _ hless
    · have hextent := getD_isExtent hp.maxSize
      have hmax := isAtMost_of_atLeast hextent (getD_isExtent hq.maxSize) hmax
      exact not_tooLarge_of_isAtMost (fun b hb => boundInBytes_pos hpos hextent hb)
        (hmax.boundInBytes hextent) hfits hgt

theorem rejection?_of_accepted {n : Int} (haccepted : judge r p = .ok (.accepted n)) :
    rejection? r p = none := by
  obtain ⟨hallowed, hfits, -⟩ := judge_eq_accepted_iff.mp haccepted
  exact Option.or_eq_none_iff.mpr ⟨qualityRejection?_eq_none_iff.mpr hallowed, hfits⟩

/-- **A looser profile rejects nothing that is accepted.**  It accepts the release, unless its
bounds are too wide to compute a score with. -/
theorem judge_of_isLooserThan (hp : p.rules.AreSound) (hq : q.rules.AreSound)
    (h : q.IsLooserThan p) {n : Int} (haccepted : judge r p = .ok (.accepted n)) :
    rejection? r q = none ∧
      if isTooWide q = true then ∃ trouble, judge r q = .error trouble
      else ∃ m, judge r q = .ok (.accepted m) ∧ 0 ≤ m ∧ m ≤ 100 := by
  have hpasses : rejection? r q = none :=
    rejection?_of_isLooserThan hp hq h (rejection?_of_accepted haccepted)
  obtain ⟨hquality, hfits⟩ := Option.or_eq_none_iff.mp hpasses
  have hscore := exists_score_of_fits hq hfits
  refine ⟨hpasses, ?_⟩
  split
  · next hwide => exact (judge_eq_error_iff hq).mpr ⟨hpasses, hwide⟩
  · next hnarrow =>
    rw [if_neg hnarrow] at hscore
    obtain ⟨m, hm, hbounds⟩ := hscore
    exact ⟨m, judge_eq_accepted_iff.mpr ⟨qualityRejection?_eq_none_iff.mp hquality, hfits, hm⟩,
      hbounds⟩

end Checks

/-! ## Wider bounds -/

theorem bounded_isLooserThan {low low' : Option Float} {high high' : Float}
    (hlow : Scale.atLeast (low.getD Scale.zero) (low'.getD Scale.zero) = true)
    (hpos : Scale.less Scale.zero high = true) (hhigh : Scale.atLeast high' high = true) :
    (bounded low' (some high')).IsLooserThan (bounded low (some high)) where
  qualities := List.Subset.refl _
  minSize := hlow
  maxSize := .inr ⟨hpos, hhigh⟩

/-- A release of one gigabyte is accepted from 700 to 2000 megabytes, and so it is if there is no
least size and the largest one is 20000. -/
theorem judge_of_isLooserThan_sample :
    (bounded (some 700) (some 2000)).rules.AreSound ∧
      (bounded none (some 20000)).rules.AreSound ∧
      (bounded none (some 20000)).IsLooserThan (bounded (some 700) (some 2000)) ∧
      judge (sized (2 ^ 30)) (bounded (some 700) (some 2000)) = .ok (.accepted 70) ∧
      ∃ m, judge (sized (2 ^ 30)) (bounded none (some 20000)) = .ok (.accepted m) := by
  have hsound : (bounded (some 700) (some 2000)).rules.AreSound :=
    bounded_areSound (by decide +kernel) (by decide +kernel)
  have hsound' : (bounded none (some 20000)).rules.AreSound :=
    bounded_areSound (by decide +kernel) (by decide +kernel)
  have hlooser : (bounded none (some 20000)).IsLooserThan (bounded (some 700) (some 2000)) :=
    bounded_isLooserThan (by decide +kernel) (by decide +kernel) (by decide +kernel)
  have haccepted : judge (sized (2 ^ 30)) (bounded (some 700) (some 2000)) =
      .ok (.accepted 70) := by decide +kernel
  have hnarrow : ¬ isTooWide (bounded none (some 20000)) = true := by decide +kernel
  obtain ⟨-, hjudge⟩ := judge_of_isLooserThan hsound hsound' hlooser haccepted
  rw [if_neg hnarrow] at hjudge
  obtain ⟨m, hm, -⟩ := hjudge
  exact ⟨hsound, hsound', hlooser, haccepted, m, hm⟩

/-- A bound that is finite in megabytes, and too large in bytes. -/
def vast : Float := 1e308

/-- A release of one megabyte is accepted up to that size.  Under the looser bound its loss is no
number. -/
theorem loosened_breaksDown :
    (bounded none (some vast)).IsLooserThan (bounded none (some 1)) ∧ isFinite vast = true ∧
      judge (sized (2 ^ 20)) (bounded none (some 1)) = .ok (.accepted 65) ∧
      judge (sized (2 ^ 20)) (bounded none (some vast)) = .error (.badValue none) := by
  have hlooser : (bounded none (some vast)).IsLooserThan (bounded none (some 1)) :=
    bounded_isLooserThan (by decide +kernel) (by decide +kernel) (by decide +kernel)
  refine ⟨hlooser, ?_⟩
  decide +kernel

end Ranking

end ReleaseSearch
