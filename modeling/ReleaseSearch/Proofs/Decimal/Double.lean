import Mathlib
import ReleaseSearch.Decimal.Scale

/-!
# Comparing doubles

A double may be no number, and then it is neither at most zero nor above it.  The lemmas here say
what comparisons of doubles come to: they look through the packed form of a double to its parts,
and doubles with the same parts are the same.
-/

namespace ReleaseSearch.Decimal

open Float.Model

/-! ## Comparing -/

theorem lt_iff_compare {x y : Float} :
    x < y ↔ x.toModel.unpack.compare y.toModel.unpack = some .lt := by
  show decide (x.toModel < y.toModel) = true ↔ _
  rw [decide_eq_true_iff]
  show (x.toModel.unpack.compare y.toModel.unpack == some .lt) = true ↔ _
  rw [beq_iff_eq]

theorem le_iff_compare {x y : Float} :
    x ≤ y ↔ (x.toModel.unpack.compare y.toModel.unpack).any (·.isLE) = true := by
  show decide (x.toModel ≤ y.toModel) = true ↔ _
  rw [decide_eq_true_iff]
  rfl

theorem beq_iff_compare {x y : Float} :
    (x == y) = true ↔ x.toModel.unpack.compare y.toModel.unpack = some .eq := by
  show (x.toModel.unpack.compare y.toModel.unpack == some .eq) = true ↔ _
  rw [beq_iff_eq]

/-- Comparing the other way round. -/
theorem compare_swap (f g : UnpackedFloat) : g.compare f = (f.compare g).map Ordering.swap := by
  have hfinite (e₁ e₂ : Int) (m₁ m₂ : Nat) :
      (compare e₂ e₁).then (compare m₂ m₁) = ((compare e₁ e₂).then (compare m₁ m₂)).swap := by
    rw [Ordering.swap_then, ← Std.OrientedCmp.eq_swap, ← Std.OrientedCmp.eq_swap]
  cases f with
  | notANumber => cases g <;> rfl
  | infinity sign =>
      cases g with
      | notANumber => rfl
      | infinity sign' => cases sign <;> cases sign' <;> rfl
      | zero sign' => cases sign <;> rfl
      | finite sign' _ _ _ => cases sign <;> rfl
  | zero sign =>
      cases g with
      | notANumber => rfl
      | infinity sign' => cases sign' <;> rfl
      | zero sign' => rfl
      | finite sign' _ _ _ => cases sign' <;> rfl
  | finite sign m e _ =>
      -- only between two finite numbers of one sign do the magnitudes count
      cases g with
      | notANumber => rfl
      | infinity sign' => cases sign' <;> rfl
      | zero sign' => cases sign <;> rfl
      | finite sign' m' e' _ =>
          cases sign <;> cases sign' <;> simp [UnpackedFloat.compare, hfinite e e' m m']

theorem le_iff_lt_or_beq {x y : Float} : x ≤ y ↔ x < y ∨ (y == x) = true := by
  rw [le_iff_compare, lt_iff_compare, beq_iff_compare,
    compare_swap x.toModel.unpack y.toModel.unpack]
  cases x.toModel.unpack.compare y.toModel.unpack with
  | none => decide
  | some order => cases order <;> decide

theorem le_of_beq {x y : Float} (h : (x == y) = true) : x ≤ y := by
  rw [le_iff_compare, beq_iff_compare.mp h]
  rfl

theorem atLeast_iff {x y : Float} : Scale.atLeast x y = true ↔ y ≤ x := by
  rw [le_iff_lt_or_beq]
  show (decide (y < x) || (x == y)) = true ↔ _
  rw [Bool.or_eq_true, decide_eq_true_iff]

/-! ## Comparing with zero -/

theorem unpack_zero : (0 : Float).toModel.unpack = .zero .positive := rfl

/-- What is not at most zero is above it, or no number. -/
theorem not_le_zero_iff {x : Float} : ¬ x ≤ 0 ↔ 0 < x ∨ x.isNaN = true := by
  have hnumber : x.isNaN = x.toModel.unpack.isNaN := rfl
  rw [le_iff_compare, lt_iff_compare, hnumber, unpack_zero]
  cases x.toModel.unpack with
  | notANumber => decide
  | zero sign => cases sign <;> decide
  | infinity sign => cases sign <;> decide
  | finite sign mantissa exponent =>
      cases sign with
      | negative => simp [UnpackedFloat.compare, UnpackedFloat.isNaN]
      | positive => simp [UnpackedFloat.compare, UnpackedFloat.isNaN]

/-- What is at least zero, but not above it, is at most zero. -/
theorem le_zero_of_not_pos {x : Float} (hnonneg : 0 ≤ x) (h : ¬ 0 < x) : x ≤ 0 := by
  rcases le_iff_lt_or_beq.mp hnonneg with hpos | hzero
  · exact absurd hpos h
  · exact le_of_beq hzero

/-! ## Packed forms -/

theorem toNat_toBitVec_ofNat {bits : Nat} (hfinite : bits < 2047 * 2 ^ 52) :
    (UInt64.ofNat bits).toBitVec.toNat = bits := by
  simp only [UInt64.toNat_toBitVec, UInt64.toNat_ofNat']
  omega

/-- Not all bits of the exponent of a finite double are set. -/
theorem unpackExponent_ne_of_finite {bits : Nat} (hfinite : bits < 2047 * 2 ^ 52) :
    @UnpackedFloat.unpackExponent .binary64 (UInt64.ofNat bits).toBitVec ≠ -1#_ := by
  intro hexponent
  have hfull : bits >>> 52 % 2048 = 2047 := by
    simpa [UnpackedFloat.unpackExponent, toNat_toBitVec_ofNat hfinite]
      using congrArg BitVec.toNat hexponent
  rw [Nat.shiftRight_eq_div_pow] at hfull
  omega

/-- Doubles with the same bits are the same. -/
theorem eq_of_toBits {x y : Float} (h : x.toBits = y.toBits) : x = y := by
  obtain ⟨⟨bits, _⟩⟩ := x
  obtain ⟨⟨bits', _⟩⟩ := y
  obtain rfl : bits = bits' := h
  rfl

/-- Packing is the inverse of unpacking, as there is one packed form of what is no number. -/
theorem pack_unpack_toModel (x : Float) :
    UnpackedFloat.pack .binary64 x.toModel.unpack = x.toBits.toBitVec := by
  refine (@UnpackedFloat.pack_unpack .binary64 x.toBits.toBitVec (by decide)).trans ?_
  split
  · next hnumber =>
    unfold UnpackedFloat.isNaNBits at hnumber
    rw [decide_eq_true_iff] at hnumber
    exact (x.toModel.valid.eq_packedNaN hnumber.1 hnumber.2).symm
  · rfl

/-- Doubles with the same parts are the same. -/
theorem eq_of_unpack {x y : Float} (h : x.toModel.unpack = y.toModel.unpack) : x = y := by
  refine eq_of_toBits (UInt64.toBitVec_inj.mp ?_)
  rw [← pack_unpack_toModel, ← pack_unpack_toModel, h]

/-- A finite double that is not negative has the bits that it is made of. -/
theorem toBits_ofBits {bits : Nat} (hfinite : bits < 2047 * 2 ^ 52) :
    (Float.ofBits (UInt64.ofNat bits)).toBits.toNat = bits := by
  have hnumber : ¬ @UnpackedFloat.isNaNBits .binary64 (UInt64.ofNat bits).toBitVec := by
    unfold UnpackedFloat.isNaNBits
    rw [decide_eq_true_iff]
    exact fun h => unpackExponent_ne_of_finite hfinite h.1
  show (UnpackedFloat.pack .binary64 (UnpackedFloat.unpack .binary64
    (UInt64.ofNat bits).toBitVec)).toNat = bits
  rw [UnpackedFloat.pack_unpack, if_neg hnumber, toNat_toBitVec_ofNat hfinite]

end ReleaseSearch.Decimal
