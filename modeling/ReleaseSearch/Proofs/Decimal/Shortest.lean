import ReleaseSearch.Decimal.Shortest
import ReleaseSearch.Proofs.Decimal.Whole

/-!
# The text of a double that is a whole number

Such a double is written with all its digits, a point and a zero:

    (Number.real x).fraction? = some n → floatText x = natDigits n ++ ".0"

The interval of the numbers that round to it is narrow, so that a multiple of a power of ten is in
it only if it is the number itself.  The first grid on which there is a point is therefore that of
the zeros at the end of the number.
-/

namespace ReleaseSearch.Decimal

/-! ## The neighbourhood of a whole number -/

/-- The numbers that round to a whole number are all near to it. -/
structure Neighbourhood.IsAround (nb : Neighbourhood) (n : Nat) : Prop where
  value : nb.value = n * nb.den
  low : nb.value ≤ nb.low + 2 ∧ nb.low < nb.value
  high : nb.value < nb.high ∧ nb.high ≤ nb.value + 2
  den : 2 < nb.den

theorem Neighbourhood.isAround_of {n k : Nat} (hn : 0 < n) :
    (Neighbourhood.of (n * 2 ^ k) (-(k : Int))).IsAround n := by
  have hpower := Nat.two_pow_pos k
  have hvalue : 0 < n * 2 ^ k := Nat.mul_pos hn hpower
  have hscale : n * (4 * 2 ^ k) = 4 * (n * 2 ^ k) := by ring
  unfold Neighbourhood.of
  simp only [scale_neg_natCast, Nat.mul_one]
  refine ⟨hscale.symm, ?_, ?_, ?_⟩
  · dsimp only
    split <;> omega
  · dsimp only
    omega
  · dsimp only
    omega

namespace Neighbourhood.IsAround

variable {nb : Neighbourhood} {n : Nat}

/-- A multiple of a power of ten rounds to a whole number only if it is that number. -/
theorem holds_iff (h : nb.IsAround n) (digits k : Nat) :
    nb.holds digits (k : Int) = true ↔ digits * 10 ^ k = n := by
  obtain ⟨hvalue, hlow, hhigh, hden⟩ := h
  -- with an exponent that is not negative the point is compared as a whole number
  have hpoint : nb.holds digits (k : Int) =
      if nb.closed then
        decide (nb.low ≤ digits * 10 ^ k * nb.den) && decide (digits * 10 ^ k * nb.den ≤ nb.high)
      else
        decide (nb.low < digits * 10 ^ k * nb.den) &&
          decide (digits * 10 ^ k * nb.den < nb.high) := by
    unfold holds
    simp only [ge_iff_le, Int.natCast_nonneg, if_true, Int.toNat_natCast, Nat.mul_one]
    rfl
  rw [hpoint]
  generalize digits * 10 ^ k = point
  constructor
  · intro hholds
    have hin : nb.low ≤ point * nb.den ∧ point * nb.den ≤ nb.high := by
      split at hholds
      · simpa using hholds
      · obtain ⟨hbelow, habove⟩ : nb.low < point * nb.den ∧ point * nb.den < nb.high := by
          simpa using hholds
        exact ⟨Nat.le_of_lt hbelow, Nat.le_of_lt habove⟩
    -- the bounds are less than a whole number away on either side
    rcases Nat.lt_trichotomy point n with hlt | heq | hgt
    · have := Nat.mul_le_mul_right nb.den (Nat.succ_le_of_lt hlt)
      rw [Nat.succ_mul] at this
      omega
    · exact heq
    · have := Nat.mul_le_mul_right nb.den (Nat.succ_le_of_lt hgt)
      rw [Nat.succ_mul] at this
      omega
  · rintro rfl
    rw [← hvalue]
    split <;> simp <;> omega

/-- A grid has a point that rounds to a whole number exactly if the number is on it. -/
theorem onGrid?_eq (h : nb.IsAround n) (k : Nat) :
    nb.onGrid? (k : Int) = if 10 ^ k ∣ n then some (n / 10 ^ k) else none := by
  have hquot : nb.value / (nb.den * Nat.pow 10 k) = n / 10 ^ k := by
    rw [h.value, Nat.mul_comm n]
    exact Nat.mul_div_mul_left _ _ (by have := h.den; omega)
  have hscale : scale10 nb.value nb.den (k : Int) = (nb.value, nb.den * Nat.pow 10 k) := by
    unfold scale10
    rw [if_pos (by omega), Int.toNat_natCast]
  have hbelow : nb.holds (n / 10 ^ k) (k : Int) = decide (10 ^ k ∣ n) := by
    rw [Bool.eq_iff_iff, h.holds_iff, decide_eq_true_iff, Nat.dvd_iff_div_mul_eq]
  have habove : nb.holds (n / 10 ^ k + 1) (k : Int) = false := by
    have hlt := Nat.lt_mul_div_succ n (Nat.pow_pos (by decide) : 0 < 10 ^ k)
    rw [Nat.mul_comm] at hlt
    rw [Bool.eq_false_iff, ne_eq, h.holds_iff]
    omega
  unfold onGrid?
  rw [hscale]
  simp only [hquot, hbelow, habove]
  by_cases hdvd : 10 ^ k ∣ n
  · rw [decide_eq_true hdvd, if_pos hdvd]
  · rw [decide_eq_false hdvd, if_neg hdvd]

/-- **The first grid with a point** is that of the zeros at the end of the number; the induction is
on the steps down to it. -/
theorem firstGrid_eq (h : nb.IsAround n) {t : Nat} (hdvd : 10 ^ t ∣ n) (hnot : ¬ 10 ^ (t + 1) ∣ n)
    {steps left : Nat} (hleft : steps ≤ left) :
    nb.firstGrid left ((t + steps : Nat) : Int) = (n / 10 ^ t, (t : Int)) := by
  -- By induction on the exponents above the largest power of ten that divides the number: none of
  -- their grids holds it.
  induction steps generalizing left with
  | zero =>
      have hfound : nb.onGrid? ((t + 0 : Nat) : Int) = some (n / 10 ^ t) := by
        rw [h.onGrid?_eq, Nat.add_zero, if_pos hdvd]
      cases left with
      | zero =>
          unfold firstGrid
          rw [hfound]
          rfl
      | succ left =>
          unfold firstGrid
          rw [hfound]
          rfl
  | succ steps ih =>
      obtain ⟨left, rfl⟩ := Nat.exists_eq_succ_of_ne_zero (show left ≠ 0 by omega)
      have hnone : nb.onGrid? ((t + (steps + 1) : Nat) : Int) = none := by
        rw [h.onGrid?_eq, if_neg]
        intro hdvd'
        exact hnot ((Nat.pow_dvd_pow 10 (by omega)).trans hdvd')
      have hnext : ((t + (steps + 1) : Nat) : Int) - 1 = ((t + steps : Nat) : Int) := by omega
      unfold firstGrid
      rw [hnone]
      dsimp only
      rw [hnext]
      exact ih (by omega)

end Neighbourhood.IsAround

/-! ## The decimal logarithm -/

theorem floorLog10From_le (num den steps : Nat) (guess : Int) :
    floorLog10From num den steps guess ≤ guess + steps := by
  induction steps generalizing guess with
  | zero => simp [floorLog10From]
  | succ steps ih =>
      have hnext := ih (guess + 1)
      unfold floorLog10From
      dsimp only
      split <;> push_cast at * <;> omega

theorem le_floorLog10From_self (num den steps : Nat) (guess : Int) :
    guess ≤ floorLog10From num den steps guess := by
  induction steps generalizing guess with
  | zero => simp [floorLog10From]
  | succ steps ih =>
      have hnext := ih (guess + 1)
      unfold floorLog10From
      dsimp only
      split <;> omega

/-- The search goes at least as far as a power of ten that is not above the number. -/
theorem le_floorLog10From {n den t : Nat} (ht : 10 ^ t ≤ n) {steps : Nat} {guess : Int}
    (hreach : (t : Int) ≤ guess + steps) :
    (t : Int) ≤ floorLog10From (n * den) den steps guess := by
  induction steps generalizing guess with
  | zero =>
      unfold floorLog10From
      omega
  | succ steps ih =>
      rcases Int.lt_or_le guess t with hlt | hle
      -- the guess is still too low, and goes up by one
      · have habove : (if guess + 1 ≥ 0 then n * den ≥ den * Nat.pow 10 (guess + 1).toNat
            else n * den * Nat.pow 10 (-(guess + 1)).toNat ≥ den) := by
          split
          · rw [Nat.mul_comm n]
            exact Nat.mul_le_mul_left den
              ((Nat.pow_le_pow_right (by decide) (by omega)).trans ht)
          · have hn : 0 < n := Nat.lt_of_lt_of_le (Nat.pow_pos (by decide)) ht
            rw [Nat.mul_comm n, Nat.mul_assoc]
            exact Nat.le_mul_of_pos_right den (Nat.mul_pos hn (Nat.pow_pos (by decide)))
        unfold floorLog10From
        dsimp only
        rw [if_pos habove]
        exact ih (by push_cast at hreach; omega)
      · exact hle.trans (le_floorLog10From_self _ _ _ _)

/-- **The search for the digits starts above the zeros at the end of the number**, and not far. -/
theorem floorLog10_bounds {n den t : Nat} (hden : 0 < den) (hn : n < 2 ^ 50) (ht : 10 ^ t ≤ n) :
    (t : Int) ≤ floorLog10 (n * den) den ∧ floorLog10 (n * den) den ≤ 17 := by
  have hpos : 0 < n := Nat.lt_of_lt_of_le (Nat.pow_pos (by decide)) ht
  have hlog : n.log2 < 50 := (Nat.log2_lt (Nat.ne_of_gt hpos)).mpr hn
  have htable : ∀ l < 50, 2 ^ (l + 1) ≤ 10 ^ (l * 30103 / 100000 + 4) := by decide
  have hfew : t < n.log2 * 30103 / 100000 + 4 := by
    refine (Nat.pow_lt_pow_iff_right (by decide)).mp (?_ : 10 ^ t < 10 ^ _)
    exact Nat.lt_of_le_of_lt ht (Nat.lt_of_lt_of_le Nat.lt_log2_self (htable _ hlog))
  have hguess : Int.fdiv ((n.log2 : Int) * 30103) 100000 - 1 =
      (n.log2 * 30103 / 100000 : Nat) - 1 := by
    rw [Int.fdiv_eq_ediv_of_nonneg _ (by decide)]
    omega
  unfold floorLog10
  rw [floorLog2_mul hpos hden, hguess]
  constructor
  · exact le_floorLog10From ht (by omega)
  · have := floorLog10From_le (n * den) den 4 (((n.log2 * 30103 / 100000 : Nat) : Int) - 1)
    omega

/-! ## The digits -/

/-- The last digit of a number is that of the rest by ten. -/
theorem exists_natDigits_eq (n : Nat) : ∃ front, natDigits n = front ++ [(n % 10).digitChar] := by
  unfold natDigits
  rw [Nat.toDigits_eq_if (by decide)]
  split
  · next h => exact ⟨[], by rw [Nat.mod_eq_of_lt h]; rfl⟩
  · exact ⟨_, rfl⟩

/-- A number that is no multiple of ten has no zeros at the end. -/
theorem dropZeros_natDigits {n : Nat} (h : ¬ 10 ∣ n) :
    dropZeros (natDigits n) = (natDigits n, 0) := by
  obtain ⟨front, hfront⟩ := exists_natDigits_eq n
  have hlast : ((n % 10).digitChar == '0') = false := by
    rw [beq_eq_false_iff_ne, ne_eq, Nat.digitChar_eq_zero]
    omega
  have hkept : ((natDigits n).reverse.dropWhile (· == '0')).reverse = natDigits n := by
    rw [hfront, List.reverse_append, List.reverse_singleton, List.singleton_append,
      List.dropWhile_cons_of_neg (by simp [hlast]), ← List.singleton_append, List.reverse_append,
      List.reverse_reverse, List.reverse_singleton]
  unfold dropZeros
  simp only [hkept, Nat.sub_self]

/-- A power of ten adds zeros. -/
theorem natDigits_mul_pow {n : Nat} (hn : 0 < n) (t : Nat) :
    natDigits (n * 10 ^ t) = natDigits n ++ List.replicate t '0' := by
  induction t with
  | zero => simp
  | succ t ih =>
      have hpos : 0 < n * 10 ^ t := Nat.mul_pos hn (Nat.pow_pos (by decide))
      have hten : n * 10 ^ (t + 1) = 10 * (n * 10 ^ t) + 0 := by ring
      rw [hten, List.replicate_succ', ← List.append_assoc, ← ih]
      exact (Nat.toDigits_append_toDigits (by decide) hpos (by decide)).symm

/-- A whole number is a number without zeros at the end, times a power of ten. -/
theorem exists_trailing {n : Nat} (hn : 0 < n) :
    ∃ front t, n = front * 10 ^ t ∧ 0 < front ∧ ¬ 10 ∣ front := by
  have hfinite : FiniteMultiplicity 10 n := Nat.finiteMultiplicity_iff.mpr ⟨by decide, hn⟩
  obtain ⟨front, hfront, hnot⟩ := hfinite.exists_eq_pow_mul_and_not_dvd
  refine ⟨front, multiplicity 10 n, by rw [Nat.mul_comm]; exact hfront, ?_, hnot⟩
  rcases Nat.eq_zero_or_pos front with rfl | hpos
  · exact absurd (dvd_zero 10) hnot
  · exact hpos

/-- **The shortest digits of a whole number** are those that are not zeros at its end. -/
theorem shortest_mul {front t k : Nat} (hpos : 0 < front) (hten : ¬ 10 ∣ front)
    (hsmall : front * 10 ^ t < 2 ^ 50) :
    shortest (front * 10 ^ t * 2 ^ k) (-(k : Int)) = (front, (t : Int)) := by
  have hpower : 0 < 10 ^ t := Nat.pow_pos (by decide)
  have hdvd : 10 ^ t ∣ front * 10 ^ t := ⟨front, Nat.mul_comm _ _⟩
  have hnot : ¬ 10 ^ (t + 1) ∣ front * 10 ^ t := by
    rw [Nat.pow_succ, Nat.mul_comm front]
    exact fun h => hten (Nat.dvd_of_mul_dvd_mul_left hpower h)
  have haround := @Neighbourhood.isAround_of _ k (Nat.mul_pos hpos hpower)
  have hden : 0 < (Neighbourhood.of (front * 10 ^ t * 2 ^ k) (-(k : Int))).den := by
    have := haround.den
    omega
  obtain ⟨hlow, hhigh⟩ := floorLog10_bounds hden hsmall (Nat.le_mul_of_pos_left _ hpos)
  rw [← haround.value] at hlow hhigh
  -- The search begins some steps above the zeros, and few enough to get down to them.
  obtain ⟨steps, hsteps⟩ := Int.le.dest hlow
  rw [← Int.natCast_add] at hsteps
  unfold shortest
  dsimp only
  rw [← hsteps, haround.firstGrid_eq hdvd hnot (by omega), Nat.mul_div_cancel _ hpower]

/-- A whole number is written with all its digits, a point and a zero. -/
theorem positiveText_mul {n k : Nat} (hn : 0 < n) (hsmall : n < 10 ^ 15) :
    positiveText (n * 2 ^ k) (-(k : Int)) = natDigits n ++ ['.', '0'] := by
  obtain ⟨front, t, rfl, hpos, hten⟩ := exists_trailing hn
  have hdigits := natDigits_mul_pow hpos t
  have hlength : (natDigits front).length + t ≤ 15 := by
    have := (length_natDigits_le_iff (by decide)).mpr hsmall
    rwa [hdigits, List.length_append, List.length_replicate] at this
  have hfront : 0 < (natDigits front).length := List.length_pos_iff.mpr (natDigits_ne_nil _)
  have hpoint : ((natDigits front).length + ((t : Int) + (0 : Nat))).toNat =
      (natDigits front).length + t := by omega
  -- The number is short enough to be written without a power of ten.
  unfold positiveText
  rw [shortest_mul hpos hten (Nat.lt_trans hsmall (by decide))]
  dsimp only
  rw [dropZeros_natDigits hten]
  dsimp only
  rw [if_pos (by omega)]
  unfold positional
  rw [if_neg (by omega), hpoint]
  dsimp only
  rw [if_pos (by omega), Nat.add_sub_cancel_left, hdigits]

/-- The parts of a double that is a whole number; only zero may have a sign. -/
theorem ofFloat_of_fraction? {x : Float} {n : Nat} (hsmall : n < 2 ^ 50)
    (h : (Number.real x).fraction? = some (n : Rat)) :
    ∃ (negative : Bool) (k : Nat), Double.ofFloat x = .finite negative (n * 2 ^ k) (-(k : Int)) ∧
      (negative = true → n = 0) := by
  have hnonneg : (0 : Rat) ≤ n := Nat.cast_nonneg n
  cases hparts : Double.ofFloat x with
  -- What is no finite number has no fraction.
  | nan =>
      unfold Number.fraction? at h
      simp only [hparts] at h
      cases h
  | infinite negative =>
      unfold Number.fraction? at h
      simp only [hparts] at h
      cases h
  | finite negative mantissa exponent =>
      rcases Int.lt_or_le exponent 0 with hneg | hlarge
      · obtain ⟨k, rfl⟩ : ∃ k : Nat, exponent = -(k : Int) := ⟨(-exponent).toNat, by omega⟩
        have hpower : (0 : Rat) < 2 ^ k := pow_pos (by decide) k
        rw [fraction?_real hparts, Option.some.injEq] at h
        cases negative with
        | false =>
            rw [if_neg Bool.false_ne_true, div_eq_iff (ne_of_gt hpower)] at h
            exact ⟨false, k, by rw [show mantissa = n * 2 ^ k by exact_mod_cast h], nofun⟩
        | true =>
            -- not below zero for all its sign, so both sides are nothing
            have hquot : (0 : Rat) ≤ mantissa / 2 ^ k := by positivity
            rw [if_pos rfl] at h
            have hn : n = 0 := by
              have : (n : Rat) = 0 := by linarith
              exact_mod_cast this
            subst hn
            have hmantissa : mantissa = 0 := by
              have : (mantissa : Rat) / 2 ^ k = 0 := by linarith
              rw [div_eq_iff (ne_of_gt hpower), zero_mul] at this
              exact_mod_cast this
            exact ⟨true, k, by rw [hmantissa, Nat.zero_mul], fun _ => rfl⟩
      · -- A mantissa that is not scaled down is too large.
        obtain ⟨k, rfl⟩ := Int.eq_ofNat_of_zero_le hlarge
        have hfull : 2 ^ 52 ≤ mantissa := by
          by_contra hlt
          have := (ofFloat_finite hparts).2 (Nat.lt_of_not_le hlt)
          omega
        have hvalue : 2 ^ 52 ≤ mantissa * 2 ^ k :=
          hfull.trans (Nat.le_mul_of_pos_right _ (Nat.two_pow_pos k))
        unfold Number.fraction? magnitude at h
        simp only [hparts, scale_natCast, Option.some.injEq, Nat.cast_one, div_one] at h
        split at h
        · have : (2 : Rat) ^ 52 ≤ ((mantissa * 2 ^ k : Nat) : Rat) := by exact_mod_cast hvalue
          linarith
        · have : mantissa * 2 ^ k = n := by exact_mod_cast h
          omega

/-- **The text of a double that is a whole number**; only zero may have a sign. -/
theorem floatText_of_fraction? {x : Float} {n : Nat} (hsmall : n < 10 ^ 15)
    (h : (Number.real x).fraction? = some (n : Rat)) :
    floatText x = String.ofList (natDigits n ++ ['.', '0']) ∨ n = 0 ∧ floatText x = "-0.0" := by
  obtain ⟨negative, k, hparts, hsign⟩ := ofFloat_of_fraction? (Nat.lt_trans hsmall (by decide)) h
  unfold floatText
  rw [hparts]
  dsimp only
  rcases Nat.eq_zero_or_pos n with rfl | hn
  · rw [if_pos (Nat.zero_mul _)]
    cases negative with
    | false => exact .inl rfl
    | true => exact .inr ⟨rfl, rfl⟩
  · have hvalue : n * 2 ^ k ≠ 0 := Nat.ne_of_gt (Nat.mul_pos hn (Nat.two_pow_pos k))
    have hpositive : negative = false := by
      rw [Bool.eq_false_iff]
      intro hneg
      have := hsign hneg
      omega
    rw [if_neg hvalue, positiveText_mul hn hsmall, hpositive, if_neg Bool.false_ne_true]
    exact .inl rfl

end ReleaseSearch.Decimal
