import ReleaseSearch.Proofs.Ranking.Score

/-!
# What is an upgrade

A release improves on what is owned if its resolution has a higher level.  So what improves on a
resolution improves on a lower one, too, with one exception: the cutoff of a profile is a single
label, and owning just that label ends all upgrades.

    isUpgrade r p (some owned) ↔ ... ∧ p.cutoff? ≠ some owned ∧ level owned < level of the release

A label past the cutoff is compared by its level, like any other one.
-/

namespace ReleaseSearch

/-- The resolution at which upgrades end; an empty label is none. -/
def Profile.cutoff? {α : Type} (p : Profile α) : Option String := p.upgradeUntil.filter (· != "")

namespace Ranking

variable {α : Type} {r : Release} {p : Profile α} {owned owned' : String}

theorem any_upgradeUntil_iff :
    (p.upgradeUntil.any fun limit => limit != "" && owned == limit) = true ↔
      p.cutoff? = some owned := by
  unfold Profile.cutoff?
  rw [Option.any_eq_true, Option.filter_eq_some_iff]
  constructor
  · rintro ⟨limit, hlimit, hsame⟩
    rw [Bool.and_eq_true, beq_iff_eq] at hsame
    obtain ⟨hfilled, rfl⟩ := hsame
    exact ⟨hlimit, hfilled⟩
  · rintro ⟨hlimit, hfilled⟩
    exact ⟨owned, hlimit, by rw [hfilled, beq_self_eq_true, Bool.and_self]⟩

/-- A release of a known quality improves on nothing at all. -/
theorem isUpgrade_none_iff :
    isUpgrade r p none = true ↔ p.upgradesAllowed = true ∧ r.quality.isSome = true := by
  unfold isUpgrade
  rw [Bool.and_true, Bool.and_eq_true]

/-- **What improves on a resolution**: an accepted one of a higher level, unless the cutoff is
owned. -/
theorem isUpgrade_some_iff :
    isUpgrade r p (some owned) = true ↔
      isUpgrade r p none = true ∧ isAllowed r p = true ∧ p.cutoff? ≠ some owned ∧
        level (some owned) < level (resolution? r) := by
  have hcutoff : (!(p.upgradeUntil.any fun limit => limit != "" && owned == limit)) = true ↔
      p.cutoff? ≠ some owned := by
    rw [Bool.not_eq_true', ← Bool.not_eq_true, any_upgradeUntil_iff]
  rw [isUpgrade_none_iff]
  unfold isUpgrade
  simp only [Bool.and_eq_true, hcutoff, decide_eq_true_eq, and_assoc]

/-- **What improves on a resolution improves on every one that is not above it**, and on nothing at
all, unless that one is the cutoff.  Nothing improves on the cutoff. -/
theorem isUpgrade_of_level_le (hlevel : level (some owned) ≤ level (some owned'))
    (h : isUpgrade r p (some owned') = true) :
    isUpgrade r p none = true ∧
      (isUpgrade r p (some owned) = true ↔ p.cutoff? ≠ some owned) ∧
      ∀ limit, p.cutoff? = some limit → ∀ r', isUpgrade r' p (some limit) = false := by
  obtain ⟨hnone, hallowed, -, hbetter⟩ := isUpgrade_some_iff.mp h
  refine ⟨hnone, ?_, fun limit hlimit r' => ?_⟩
  · rw [isUpgrade_some_iff]
    constructor
    · rintro ⟨-, -, hcutoff, -⟩
      exact hcutoff
    · intro hcutoff
      exact ⟨hnone, hallowed, hcutoff, hlevel.trans_lt hbetter⟩
  · rw [← Bool.not_eq_true, isUpgrade_some_iff]
    rintro ⟨-, -, hcutoff, -⟩
    exact hcutoff hlimit

/-! ## Past the cutoff -/

/-- A profile that accepts three resolutions and upgrades to the lowest of them. -/
def modest : Profile Rat where
  qualities := ["720p", "1080p", "2160p"]
  upgradesAllowed := true
  upgradeUntil := some "720p"

def largest : Release where
  title := "Large"
  indexer := "sample"
  downloadUrl := "https://example.org/large"
  quality := some { resolution := some "2160p" }

/-- It improves on a resolution below the cutoff, as it improves on one above it. -/
theorem isUpgrade_of_level_le_low :
    level (some "480p") ≤ level (some "1080p") ∧ isUpgrade largest modest (some "1080p") = true ∧
      isUpgrade largest modest (some "480p") = true := by
  have hlevel : level (some "480p") ≤ level (some "1080p") := by decide
  have hupgrade : isUpgrade largest modest (some "1080p") = true := by decide
  obtain ⟨-, hlow, -⟩ := isUpgrade_of_level_le hlevel hupgrade
  exact ⟨hlevel, hupgrade, hlow.mpr (by decide)⟩

/-- Past the cutoff it is an upgrade, and at the cutoff it is none. -/
theorem isUpgrade_past_cutoff :
    modest.cutoff? = some "720p" ∧ level (some "720p") ≤ level (some "1080p") ∧
      isUpgrade largest modest (some "1080p") = true ∧
      isUpgrade largest modest (some "720p") = false := by
  decide

end Ranking

end ReleaseSearch
