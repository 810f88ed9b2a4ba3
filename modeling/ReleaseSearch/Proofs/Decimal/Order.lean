import ReleaseSearch.Proofs.Decimal.Conversion

/-!
# The order of all doubles

Doubles that are numbers have their place on a line, from the negative infinite one to the positive
one, and one is less than another exactly if its place is before (`lt_iff_place`).  As there are
only so many of them, going up comes to an end.
-/

namespace ReleaseSearch.Decimal

open Float.Model hiding pack unpack
open Float.Model.UnpackedFloat

def place : UnpackedFloat → Option (WithBot (WithTop Rat))
  | .notANumber => none
  | .infinity .negative => some ⊥
  | .infinity .positive => some (⊤ : WithTop Rat)
  | .zero _ => some (0 : Rat)
  | .finite s m e _ => some (factor s * (m * 2 ^ e) : Rat)

theorem Represents.place_eq {f : UnpackedFloat} {v : Rat} (h : Represents f v) :
    place f = some (v : WithTop Rat) := by
  cases h with
  | zero s hv => rw [hv]; rfl
  | finite s hpos hm he hfull hv => rw [hv]; rfl

theorem notANumber_compare (f : UnpackedFloat) :
    UnpackedFloat.compare .notANumber f = none := by
  cases f <;> rfl

theorem compare_notANumber (f : UnpackedFloat) : f.compare .notANumber = none := by
  cases f <;> rfl

/-- Comparing looks at the places. -/
theorem compare_eq_lt_iff {f g : UnpackedFloat} (hf : NotFinite f ∨ ∃ v, Represents f v)
    (hg : NotFinite g ∨ ∃ v, Represents g v) :
    f.compare g = some .lt ↔ ∃ a b, place f = some a ∧ place g = some b ∧ a < b := by
  -- An infinity lies beyond every number that a double represents, and what is no number has no
  -- place.
  rcases hf with hf | ⟨v, hf⟩
  · cases hf with
    | notANumber => simp [notANumber_compare, place]
    | infinity s =>
        rcases hg with hg | ⟨w, hg⟩
        · cases hg with
          | notANumber => simp [compare_notANumber, place]
          | infinity s' =>
              have hsigns : compare Sign.negative Sign.positive = .lt := rfl
              cases s <;> cases s' <;> simp [place, UnpackedFloat.compare, hsigns]
        · rw [hg.place_eq]
          cases s with
          | negative =>
              refine iff_of_true ?_ ⟨_, _, rfl, rfl, WithBot.bot_lt_coe _⟩
              cases hg <;> rfl
          | positive =>
              rw [compare_swap, compare_infinity hg]
              refine iff_of_false (by simp) ?_
              rintro ⟨_, _, ⟨⟩, ⟨⟩, h⟩
              exact not_top_lt (WithBot.coe_lt_coe.mp h)
  · rcases hg with hg | ⟨w, hg⟩
    · rw [hf.place_eq]
      cases hg with
      | notANumber => simp [compare_notANumber, place]
      | infinity s =>
          cases s with
          | negative =>
              refine iff_of_false ?_ ?_
              · cases hf <;> simp [UnpackedFloat.compare]
              · rintro ⟨_, _, ⟨⟩, ⟨⟩, h⟩
                exact not_lt_bot h
          | positive =>
              exact iff_of_true (compare_infinity hf)
                ⟨_, _, rfl, rfl, WithBot.coe_lt_coe.mpr (WithTop.coe_lt_top v)⟩
    · rw [compare_represents hf hg, hf.place_eq, hg.place_eq, Option.some_inj, compare_lt_iff_lt]
      simp

theorem notFinite_or_represents (x : Float) :
    NotFinite x.toModel.unpack ∨ ∃ v, Represents x.toModel.unpack v := by
  rw [← not_isFinite_iff]
  exact (em (IsFinite x)).symm

/-- **Less is before.** -/
theorem lt_iff_place {x y : Float} :
    x < y ↔ ∃ a b, place x.toModel.unpack = some a ∧ place y.toModel.unpack = some b ∧ a < b :=
  lt_iff_compare.trans (compare_eq_lt_iff (notFinite_or_represents x) (notFinite_or_represents y))

instance isTrans_gt : IsTrans Float fun x y => y < x where
  trans x y z hyx hzy := by
    obtain ⟨b, a, hb, ha, hba⟩ := lt_iff_place.mp hyx
    obtain ⟨c, b', hc, hb', hcb⟩ := lt_iff_place.mp hzy
    cases hb.symm.trans hb'
    exact lt_iff_place.mpr ⟨c, a, hc, ha, hcb.trans hba⟩

instance irrefl_gt : Std.Irrefl fun x y : Float => y < x where
  irrefl x h := by
    obtain ⟨a, a', ha, ha', hlt⟩ := lt_iff_place.mp h
    cases ha.symm.trans ha'
    exact lt_irrefl _ hlt

instance finite_double : Finite Float :=
  Finite.of_injective (fun x : Float => (⟨x.toBits.toNat, x.toBits.toNat_lt⟩ : Fin (2 ^ 64)))
    fun _ _ h => eq_of_toBits (UInt64.toNat_inj.mp (congrArg Fin.val h))

/-- **Going up comes to an end.** -/
instance wellFoundedGT_double : WellFoundedGT Float := ⟨Finite.wellFounded_of_trans_of_irrefl _⟩

/-! ## What nothing is above -/

/-- No number, or beyond all others. -/
inductive Topmost : UnpackedFloat → Prop
  | notANumber : Topmost .notANumber
  | infinity : Topmost (.infinity .positive)

/-- Above zero, or no number. -/
def IsAbove (g : UnpackedFloat) : Prop := Topmost g ∨ ∃ v, Represents g v ∧ 0 < v

namespace Topmost

variable {f g : UnpackedFloat}

theorem sub_left (h : Topmost f) (g : UnpackedFloat) : Topmost (sub .binary64 f g) := by
  cases h with
  | notANumber => exact .notANumber
  | infinity =>
      cases g with
      | notANumber => exact .notANumber
      | infinity s =>
          cases s with
          | negative => exact .infinity
          | positive => exact .notANumber
      | zero s => exact .infinity
      | finite s m e hpos => exact .infinity

theorem add_right (h : Topmost g) (f : UnpackedFloat) : Topmost (add .binary64 f g) := by
  cases f with
  | notANumber => exact .notANumber
  | infinity s =>
      cases h with
      | notANumber => exact .notANumber
      | infinity =>
          cases s with
          | negative => exact .notANumber
          | positive => exact .infinity
  | zero s =>
      cases h with
      | notANumber => exact .notANumber
      | infinity => exact .infinity
  | finite s m e hpos =>
      cases h with
      | notANumber => exact .notANumber
      | infinity => exact .infinity

theorem mul_left (h : Topmost f) (hg : IsAbove g) : Topmost (mul .binary64 f g) := by
  cases h with
  | notANumber => exact .notANumber
  | infinity =>
      rcases hg with hg | ⟨v, hg, hv⟩
      · cases hg with
        | notANumber => exact .notANumber
        | infinity => exact .infinity
      · rw [mul_infinity hg hv]
        exact .infinity

theorem unpack_pack (h : Topmost f) : Topmost (unpack .binary64 (pack .binary64 f)) := by
  cases h with
  | notANumber =>
      rw [unpack_pack_notANumber]
      exact .notANumber
  | infinity =>
      rw [unpack_pack_infinity]
      exact .infinity

end Topmost

section Doubles

variable {x y : Float}

/-- What is not below the infinite double is at the top. -/
theorem topmost_of_not_lt (h : ¬ x < infinity) : Topmost x.toModel.unpack := by
  have hinfinity : infinity.toModel.unpack = .infinity .positive := rfl
  rcases unpack_cases x with hx | ⟨s, hx⟩ | ⟨v, hx⟩
  · rw [hx]
    exact .notANumber
  · rw [hx]
    cases s with
    | positive => exact .infinity
    | negative =>
        rw [lt_iff_compare, hx, hinfinity] at h
        exact absurd rfl h
  · exact absurd (hx.lt_endless hinfinity) h

theorem Topmost.not_lt (h : Topmost x.toModel.unpack) (y : Float) : ¬ x < y := by
  rw [lt_iff_compare]
  generalize x.toModel.unpack = f at h
  cases h with
  | notANumber => exact nofun
  | infinity =>
      rcases unpack_cases y with hy | ⟨s, hy⟩ | ⟨v, hy⟩
      · rw [hy]
        exact nofun
      · rw [hy]
        cases s <;> exact nofun
      · rw [compare_swap, compare_infinity hy]
        exact nofun

/-- What is not at most zero is above it, or no number. -/
theorem isAbove_of_not_le_zero (h : ¬ x ≤ 0) : IsAbove x.toModel.unpack := by
  rcases not_le_zero_iff.mp h with hpos | hnumber
  · rcases unpack_cases x with hx | ⟨s, hx⟩ | ⟨v, hx⟩
    · rw [hx]
      exact .inl .notANumber
    · rw [hx]
      cases s with
      | positive => exact .inl .infinity
      | negative =>
          rw [lt_iff_compare, unpack_zero, hx] at hpos
          cases hpos
    · have hzero : IsWorth 0 0 := .zero .positive rfl
      exact .inr ⟨v, hx, (hzero.lt_iff hx).mp hpos⟩
  · have hnumber : x.toModel.unpack.isNaN = true := hnumber
    generalize x.toModel.unpack = f at hnumber
    cases f with
    | notANumber => exact .inl .notANumber
    | infinity | zero | finite => cases hnumber

/-- What is equal to a double above zero is above zero, too. -/
theorem IsAbove.of_beq (hy : IsAbove y.toModel.unpack) (h : (x == y) = true) :
    IsAbove x.toModel.unpack := by
  rw [beq_iff_compare] at h
  -- What equals a double above zero is above zero as well, since only one infinity and one number
  -- are equal to each.
  rcases hy with hy | ⟨w, hy, hw⟩
  · generalize y.toModel.unpack = g at h hy
    generalize x.toModel.unpack = f at h
    cases hy with
    | notANumber => cases f <;> cases h
    | infinity =>
        cases f with
        | infinity s =>
            cases s with
            | positive => exact .inl .infinity
            | negative => cases h
        | notANumber | zero | finite => cases h
  · rcases unpack_cases x with hx | ⟨s, hx⟩ | ⟨v, hx⟩
    · rw [hx] at h
      cases h
    · rw [hx] at h
      cases s with
      | positive =>
          rw [compare_swap, compare_infinity hy] at h
          cases h
      | negative =>
          generalize y.toModel.unpack = g at h hy
          cases hy <;> cases h
    · rw [compare_represents hx hy, Option.some_inj, compare_eq_iff_eq] at h
      exact .inr ⟨v, hx, h ▸ hw⟩

theorem IsAbove.not_beq_zero (h : IsAbove x.toModel.unpack) : ¬ (x == 0) = true := by
  rw [beq_iff_compare, unpack_zero]
  generalize x.toModel.unpack = f at h
  rcases h with h | ⟨v, h, hv⟩
  · cases h <;> exact nofun
  · have hzero : Represents (.zero .positive) 0 := .zero .positive rfl
    rw [compare_represents h hzero, Option.some_inj, compare_eq_iff_eq]
    exact hv.ne'

/-- There is one double beyond all others. -/
theorem IsEndless.eq_infinity (h : IsEndless x) : x = infinity := eq_of_unpack h

/-- The inverse of what is above zero is above zero, unless it is that of the infinite double. -/
theorem IsAbove.one_div (h : IsAbove x.toModel.unpack) (hx : x ≠ infinity) :
    IsAbove (1 / x).toModel.unpack := by
  have hone : IsWorth 1 1 := isWorth_natCast (n := 1) (by decide)
  rcases h with h | ⟨v, h, hv⟩
  · generalize hf : x.toModel.unpack = f at h
    cases h with
    | notANumber =>
        rw [unpack_div, hf]
        exact .inl .notANumber
    | infinity => exact absurd (IsEndless.eq_infinity hf) hx
  · have hpos : 0 < nearestValue (1 / v) := by
      -- A finite double is at most two to the 1024th, so its inverse is no less than the least
      -- double.
      have hle : ((1 : Nat) : Rat) * 2 ^ (-1074 : Int) ≤ 1 / v := by
        have hlt : v < beyond := IsWorth.lt_beyond h
        rw [Nat.cast_one, one_mul, le_div_iff₀ hv]
        calc (2 : Rat) ^ (-1074 : Int) * v ≤ 2 ^ (-1074 : Int) * 2 ^ (1024 : Int) :=
              mul_le_mul_of_nonneg_left hlt.le (zpow_pos two_pos _).le
          _ = 2 ^ (-1074 + 1024 : Int) := (zpow_add₀ two_ne_zero _ _).symm
          _ ≤ 1 := zpow_le_one_of_nonpos₀ one_le_two (by decide)
      refine lt_of_lt_of_le ?_ (le_nearestValue hle (by decide) le_rfl)
      rw [Nat.cast_one, one_mul]
      exact zpow_pos two_pos _
    have hnearest : nearest (1 / v) = nearestValue (1 / v) := nearest_of_nonneg (by positivity)
    rcases lt_or_ge (nearestValue (1 / v)) beyond with hlt | hge
    · refine .inr ⟨nearest (1 / v), hone.div h hv.ne' ?_, hnearest ▸ hpos⟩
      rwa [hnearest, abs_of_pos hpos]
    -- the inverse of a very small double can be too large
    · have hendless : IsEndless (1 / x) := hone.div_overflow h hv.ne' (hnearest ▸ hge)
      exact .inl (hendless ▸ .infinity)

end Doubles

end ReleaseSearch.Decimal
