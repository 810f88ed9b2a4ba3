import Mathlib.Data.Rat.Floor
import Mathlib.Tactic.FieldSimp
import Mathlib.Tactic.Linarith
import ReleaseSearch.Proofs.Decimal.Scale
import ReleaseSearch.Proofs.Except
import ReleaseSearch.Ranking.Score

/-!
# What a score is made of

A score weighs four parts, each of them from 0 to 100.  Over exact fractions all parts exist, and
the score is a quotient of whole numbers:

    score r p = .ok ((4 * quality + 3 * source + 2 * size + seeders + 5) / 10)

A release that a profile accepts loses at most half of the parts for its resolution and its size, as
these look at the same list and at the same bounds as the acceptance does.  So its score is at
least 38.
-/

namespace ReleaseSearch

open Decimal

/-- No bound on the size is below zero. -/
structure Rules.AreSound {α : Type} [Scale α] (rules : Rules α) : Prop where
  minSize : ∀ bound, rules.minSize = some bound → Scale.atLeast bound Scale.zero = true
  maxSize : ∀ bound, rules.maxSize = some bound → Scale.atLeast bound Scale.zero = true

namespace Ranking

/-! ## Parts in any arithmetic -/

section Parts

variable {α : Type}

/-- The part for the source is never below a quarter. -/
theorem sourceScore_bounds (r : Release) (p : Profile α) :
    25 ≤ sourceScore r p ∧ sourceScore r p ≤ 100 := by
  unfold sourceScore
  split
  · omega
  · split
    · omega
    · split <;> omega

theorem seederScore_bounds (r : Release) : 0 ≤ seederScore r ∧ seederScore r ≤ 100 := by
  unfold seederScore
  repeat' split
  all_goals omega

theorem level_le (resolution : Option String) : level resolution ≤ 6 := by
  unfold level
  cases resolution with
  | none => exact Nat.zero_le 6
  | some label =>
      dsimp only
      cases hfound : levels.find? (·.1 == label) with
      | none => exact Nat.zero_le 6
      | some entry =>
          have hmem : entry ∈ levels := List.mem_of_find?_eq_some hfound
          have hle : ∀ entry ∈ levels, entry.2 ≤ 6 := by decide
          exact hle entry hmem

theorem isAllowed_iff {r : Release} {p : Profile α} :
    isAllowed r p = true ↔ ∃ label, resolution? r = some label ∧ label ∈ p.qualities := by
  unfold isAllowed
  cases resolution? r <;> simp

theorem qualityRejection?_eq_none_iff {r : Release} {p : Profile α} :
    qualityRejection? r p = none ↔ r.quality.isSome = true ∧ isAllowed r p = true := by
  unfold qualityRejection?
  cases r.quality <;> cases isAllowed r p <;> simp

variable [Scale α] {r : Release} {p : Profile α}

/-- What a release is like that a profile accepts. -/
theorem judge_eq_accepted_iff {n : Int} :
    judge r p = .ok (.accepted n) ↔
      (r.quality.isSome = true ∧ isAllowed r p = true) ∧ sizeRejection? r p = none ∧
        score r p = .ok n := by
  rw [← qualityRejection?_eq_none_iff]
  unfold judge rejection?
  cases qualityRejection? r p with
  | some reason => simp
  | none =>
      cases sizeRejection? r p with
      | some reason => simp
      | none => simp [map_eq_ok_iff]

/-- A size passes if it is neither below the one bound nor above the other one; a bound that is zero
is none. -/
theorem sizeRejection?_eq_none_iff :
    sizeRejection? r p = none ↔
      ¬ (Scale.less Scale.zero (minBytes p) = true ∧
        Scale.compareInt? r.size (minBytes p) = some .lt) ∧
      ¬ (Scale.less Scale.zero (maxBytes p) = true ∧
        Scale.compareInt? r.size (maxBytes p) = some .gt) := by
  unfold sizeRejection?
  simp only [Bool.and_eq_true, beq_iff_eq]
  split
  · next hsmall => exact iff_of_false (by simp) fun h => h.1 hsmall
  · next hnotSmall =>
    split
    · next hlarge => exact iff_of_false (by simp) fun h => h.2 hlarge
    · next hnotLarge => exact iff_of_true rfl ⟨hnotSmall, hnotLarge⟩

/-- An arithmetic finds the share that one resolution has in another one. -/
def FindsShares (α : Type) [Scale α] : Prop :=
  ∀ found wanted, 0 < wanted → wanted ≤ 6 → found ≤ wanted →
    ∃ n, roundHalfUp (Scale.ratio found wanted * Scale.ratio 49 1 : α) = .ok n ∧ 0 ≤ n ∧ n ≤ 49

/-- The part for the resolution; half of it is sure for an accepted one. -/
theorem exists_qualityScore (hshares : FindsShares α) (r : Release) (p : Profile α) :
    ∃ n, qualityScore r p = .ok n ∧ 0 ≤ n ∧ n ≤ 100 ∧
      (r.quality.isSome = true ∧ isAllowed r p = true → 50 ≤ n) := by
  unfold qualityScore
  by_cases hquality : r.quality.isNone = true
  · rw [if_pos hquality]
    refine ⟨0, rfl, by omega, by omega, fun h => ?_⟩
    rw [Option.isNone_iff_eq_none.mp hquality] at h
    cases h.1
  rw [if_neg hquality]
  dsimp only
  split
  -- the preferred quality itself
  · exact ⟨100, rfl, by omega, by omega, fun _ => by omega⟩
  split
  · by_cases hwanted : level p.preferred? = 0
    · rw [if_pos hwanted]
      exact ⟨50, rfl, by omega, by omega, fun _ => by omega⟩
    rw [if_neg hwanted]
    split
    · next hle =>
        -- between the allowed ones and the preferred: half of the points, and a share of the rest
        obtain ⟨n, hn, hlow, hhigh⟩ :=
          hshares _ _ (Nat.pos_of_ne_zero hwanted) (level_le _) hle
        rw [hn]
        exact ⟨50 + n, rfl, by omega, by omega, fun _ => by omega⟩
    · exact ⟨50, rfl, by omega, by omega, fun _ => by omega⟩
  · next hnot => exact ⟨0, rfl, by omega, by omega, fun h => absurd h.2 hnot⟩

end Parts

/-! ## Exact parts -/

theorem roundHalfUp_eq (x : Rat) : roundHalfUp x = .ok ⌊x + 1 / 2⌋ := by
  unfold roundHalfUp Scale.rounded
  rw [Scale.ratio_eq_div]
  norm_num
  rfl

/-- A number between zero and a whole number is rounded to one between them. -/
theorem floor_half_bounds {x : Rat} {n : Int} (hlow : 0 ≤ x) (hhigh : x ≤ n) :
    0 ≤ ⌊x + 1 / 2⌋ ∧ ⌊x + 1 / 2⌋ ≤ n := by
  constructor
  · exact Int.floor_nonneg.mpr (by linarith)
  · refine Int.lt_add_one_iff.mp (Int.floor_lt.mpr ?_)
    push_cast
    linarith

theorem findsShares_rat : FindsShares Rat := by
  intro found wanted hpos _ hle
  have hpos : (0 : Rat) < wanted := by exact_mod_cast hpos
  have hshare : (found : Rat) / wanted ≤ 1 := by
    rw [div_le_one hpos]
    exact_mod_cast hle
  rw [roundHalfUp_eq]
  refine ⟨_, rfl, floor_half_bounds ?_ ?_⟩
  · simp only [Scale.ratio_eq_div]
    positivity
  · simp only [Scale.ratio_eq_div]
    push_cast
    linarith

section Exact

variable {r : Release} {p : Profile Rat}

theorem boundInBytes_nonneg {bound : Option Rat}
    (h : ∀ b, bound = some b → Scale.atLeast b Scale.zero = true) : 0 ≤ boundInBytes bound := by
  cases bound with
  | none => simp [boundInBytes]
  | some b =>
      have hb : 0 ≤ b := by simpa using h b rfl
      unfold boundInBytes
      dsimp only
      split
      · simp
      · rw [Scale.ratio_eq_div]
        positivity

/-- The size of an accepted release is between the bounds. -/
theorem size_within (hnone : sizeRejection? r p = none) (hrange : 0 ≤ minBytes p)
    (hhigh : 0 < maxBytes p) : minBytes p ≤ r.size ∧ (r.size : Rat) ≤ maxBytes p := by
  simp only [sizeRejection?_eq_none_iff, Scale.less_eq_true_iff, Scale.zero_eq,
    Scale.compareInt?_eq_lt_iff, Scale.compareInt?_eq_gt_iff, Int.cast_natCast] at hnone
  obtain ⟨hmin, hmax⟩ := hnone
  constructor
  · rcases hrange.lt_or_eq with hpos | hzero
    · exact not_lt.mp fun h => hmin ⟨hpos, h⟩
    · rw [← hzero]
      positivity
  · exact not_lt.mp fun h => hmax ⟨hhigh, h⟩

/-- The part for the size; half of it is sure for an accepted one. -/
theorem exists_sizeScore (hsound : p.rules.AreSound) (r : Release) :
    ∃ n, sizeScore r p = .ok n ∧ 0 ≤ n ∧ n ≤ 100 ∧ (sizeRejection? r p = none → 50 ≤ n) := by
  have hlow : 0 ≤ minBytes p := boundInBytes_nonneg hsound.minSize
  have hhigh : 0 ≤ maxBytes p := boundInBytes_nonneg hsound.maxSize
  unfold sizeScore
  simp only [Bool.and_eq_true, Bool.or_eq_true, Scale.isZero_eq_true_iff, Scale.less_eq_true_iff,
    Scale.zero_eq, Scale.distance_eq_abs, Scale.ratio_eq_div]
  split
  · exact ⟨50, rfl, by omega, by omega, fun _ => by omega⟩
  split
  · exact ⟨50, rfl, by omega, by omega, fun _ => by omega⟩
  next hwide =>
  have hrange : 0 < maxBytes p - minBytes p := by
    rw [not_or, not_lt] at hwide
    exact lt_of_le_of_ne hwide.1 (Ne.symm hwide.2)
  -- The distance from the middle, in hundredths of the range.
  obtain ⟨x, hx⟩ : ∃ x : Rat,
      x = |(r.size : Rat) - (minBytes p + maxBytes p) / ((2 : Nat) / (1 : Nat))| /
        (maxBytes p - minBytes p) * ((100 : Nat) / (1 : Nat)) := ⟨_, rfl⟩
  have hnonneg : 0 ≤ x := by
    rw [hx]
    positivity
  have hloss : 0 ≤ ⌊x + 1 / 2⌋ := Int.floor_nonneg.mpr (by linarith)
  refine ⟨max 0 (100 - ⌊x + 1 / 2⌋), ?_, by omega, by omega, fun haccepted => ?_⟩
  · show (roundHalfUp _ >>= fun loss => Except.ok (max 0 (100 - loss))) = _
    rw [roundHalfUp_eq, hx]
    rfl
  · obtain ⟨hmin, hmax⟩ := size_within haccepted hlow (by linarith)
    have hhalf : x ≤ (50 : Int) := by
      rw [hx, div_mul_eq_mul_div, div_le_iff₀ hrange]
      push_cast
      have hdistance : |(r.size : Rat) - (minBytes p + maxBytes p) / (2 / 1)| ≤
          (maxBytes p - minBytes p) / 2 := by
        rw [abs_le]
        constructor <;> linarith
      linarith
    have := (floor_half_bounds hnonneg hhalf).2
    omega

theorem part_eq {n : Int} (hn : 0 ≤ n) (tenths : Nat) :
    (part n tenths : Rat) = n * tenths / 10 := by
  have hcast : ((n.toNat : Nat) : Rat) = (n : Rat) := by exact_mod_cast Int.toNat_of_nonneg hn
  unfold part
  simp only [Scale.ratio_eq_div, hcast]
  push_cast
  ring

/-- **A score out of its parts.** -/
theorem score_eq {quality size : Int} (hquality : qualityScore r p = .ok quality)
    (hsize : sizeScore r p = .ok size) (hquality' : 0 ≤ quality) (hsize' : 0 ≤ size) :
    score r p =
      .ok ((4 * quality + 3 * sourceScore r p + 2 * size + seederScore r + 5) / 10) := by
  have hsource : 0 ≤ sourceScore r p := (sourceScore_bounds r p).1.trans' (by omega)
  have hseeders : 0 ≤ seederScore r := (seederScore_bounds r).1
  have hfloor := Rat.floor_intCast_div_natCast
    (4 * quality + 3 * sourceScore r p + 2 * size + seederScore r + 5) 10
  unfold score
  rw [hquality, hsize]
  show roundHalfUp (_ : Rat) = _
  rw [roundHalfUp_eq, part_eq hquality', part_eq hsource, part_eq hsize', part_eq hseeders]
  refine congrArg Except.ok (Eq.trans (congrArg Int.floor ?_) hfloor)
  push_cast
  ring

/-- **Exact parts exist**, and so does the score. -/
theorem exists_parts (hsound : p.rules.AreSound) (r : Release) :
    ∃ quality size, qualityScore r p = .ok quality ∧ sizeScore r p = .ok size ∧
      (0 ≤ quality ∧ quality ≤ 100) ∧ (0 ≤ size ∧ size ≤ 100) ∧
      (r.quality.isSome = true ∧ isAllowed r p = true → 50 ≤ quality) ∧
      (sizeRejection? r p = none → 50 ≤ size) := by
  obtain ⟨quality, hquality, hlow, hhigh, hhalf⟩ := exists_qualityScore findsShares_rat r p
  obtain ⟨size, hsize, hlow', hhigh', hhalf'⟩ := exists_sizeScore hsound r
  exact ⟨quality, size, hquality, hsize, ⟨hlow, hhigh⟩, ⟨hlow', hhigh'⟩, hhalf, hhalf'⟩

/-- **Where scores are**, over exact fractions and for every profile with finite bounds.

* All parts exist, and the score is from 0 to 100.
* A release that is accepted has half of the part for its resolution and half of the one for its
  size, a quarter of that for its source, and so a score of at least 38. -/
theorem score_bounds (hsound : p.rules.AreSound) (r : Release) :
    ∃ quality size n, qualityScore r p = .ok quality ∧ sizeScore r p = .ok size ∧
      score r p = .ok n ∧ 0 ≤ n ∧ n ≤ 100 ∧
      ∀ m, judge r p = .ok (.accepted m) →
        m = n ∧ 50 ≤ quality ∧ 25 ≤ sourceScore r p ∧ 50 ≤ size ∧ 38 ≤ m ∧ m ≤ 100 := by
  obtain ⟨quality, size, hquality, hsize, hqualityIn, hsizeIn, hqualityHalf, hsizeHalf⟩ :=
    exists_parts hsound r
  have hsourceIn := sourceScore_bounds r p
  have hseedersIn := seederScore_bounds r
  have hscore := score_eq hquality hsize hqualityIn.1 hsizeIn.1
  refine ⟨quality, size, _, hquality, hsize, hscore, by omega, by omega, fun m haccepted => ?_⟩
  obtain ⟨hallowed, hfits, hm⟩ := judge_eq_accepted_iff.mp haccepted
  have hm := Except.ok.inj (hm.symm.trans hscore)
  have hhalf := hqualityHalf hallowed
  have hhalf' := hsizeHalf hfits
  omega

end Exact

/-! ## The least score -/

/-- A profile that wants a resolution of no known rank, at most twice as large as the least size. -/
def strictProfile : Profile Rat where
  qualities := ["720p"]
  upgradeUntil := some "best"
  rules := { minSize := some 1, maxSize := some 2, preferredSources := ["BluRay"] }

/-- A release of the least size, from another source, that nobody seeds. -/
def barelyAccepted : Release where
  title := "Barely"
  indexer := "sample"
  size := 1048576
  downloadUrl := "https://example.org/barely"
  quality := some { resolution := some "720p" }

/-- The least score is reached. -/
theorem score_bounds_least :
    strictProfile.rules.AreSound ∧
      judge barelyAccepted strictProfile = .ok (.accepted 38) ∧
      ∃ quality size, qualityScore barelyAccepted strictProfile = .ok quality ∧
        sizeScore barelyAccepted strictProfile = .ok size ∧ 50 ≤ quality ∧ 50 ≤ size := by
  have hsound : strictProfile.rules.AreSound := by
    constructor
    · rintro bound ⟨⟩
      decide +kernel
    · rintro bound ⟨⟩
      decide +kernel
  have haccepted : judge barelyAccepted strictProfile = .ok (.accepted 38) := by decide +kernel
  obtain ⟨quality, size, _, hquality, hsize, _, _, _, hbounds⟩ := score_bounds hsound barelyAccepted
  obtain ⟨_, hhalf, _, hhalf', _⟩ := hbounds 38 haccepted
  exact ⟨hsound, haccepted, quality, size, hquality, hsize, hhalf, hhalf'⟩

end Ranking

end ReleaseSearch
