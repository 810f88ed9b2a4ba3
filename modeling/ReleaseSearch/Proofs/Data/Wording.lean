import ReleaseSearch.Data.Wording

/-!
# Which values can be put in words

A value is put in words unless a number in it is too long for that.
-/

namespace ReleaseSearch.Data

open Decimal

theorem inWords_of_isWritable {d : Data} (h : d.isWritable = true) : d.inWords = .ok d.display :=
  if_pos h

theorem inWords_of_not_isWritable {d : Data} (h : ¬ d.isWritable = true) :
    d.inWords = .error (.badValue none) := if_neg h

theorem inWords_eq_error_iff {d : Data} {b : Breakdown} :
    d.inWords = .error b ↔ ¬ d.isWritable = true ∧ b = .badValue none := by
  by_cases h : d.isWritable = true
  · simp [inWords_of_isWritable h, h]
  · simp [inWords_of_not_isWritable h, h, eq_comm]

theorem allWritable_iff {items : List Data} :
    allWritable items = true ↔ ∀ item ∈ items, item.isWritable = true := by
  induction items with
  | nil => simp [allWritable]
  | cons item rest ih => simp [allWritable, ih]

/-! ## Whole numbers -/

/-- A whole number with few digits can be put in words. -/
theorem isWritable_int {n : Int} (count : Nat) (hcount : count ≤ digitLimit)
    (hn : n.natAbs < Nat.pow 10 count) : (Data.int n).isWritable = true := by
  rw [isWritable, decide_eq_true_iff]
  generalize digitLimit = limit at hcount
  exact Nat.lt_of_lt_of_le hn (Nat.pow_le_pow_right (by decide) hcount)

theorem inWords_int {n : Int} {text : String} (h : (Data.int n).inWords = .ok text) :
    intText n = text := by
  unfold inWords at h
  split at h
  · cases h
    rfl
  · cases h

end ReleaseSearch.Data
