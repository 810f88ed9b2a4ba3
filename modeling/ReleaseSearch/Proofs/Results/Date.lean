import ReleaseSearch.Proofs.Text.Blank
import ReleaseSearch.Proofs.Time.Stamp
import ReleaseSearch.Results.Value

/-!
# Dates of results

The date of a result may be a number, which counts seconds or milliseconds from the start of 1970.
The standard forms of a date are tried first, and eight digits that write a date of the calendar are
one of them; so such a number is never taken for a count of seconds.
-/

namespace ReleaseSearch.Results

open Text Decimal Time

/-- A date that can be read leaves no entry. -/
theorem readDate_natDigits {n : Nat} {m : Moment} (h : moment? (intText n) = some m) :
    readDate (intText n) = pure (some m) := by
  have hne : intText n ≠ "" := by
    rw [intText_natCast]
    intro hempty
    exact natDigits_ne_nil n (String.ofList_injective hempty)
  have hstrip : strip (intText n) = intText n := by
    refine strip_eq_self fun c hc => ?_
    rw [intText_natCast, String.toList_ofList] at hc
    exact isBlank_of_isAsciiDigit (areDigits_natDigits n c hc)
  unfold readDate readDateShown
  rw [if_neg hne]
  simp only [hstrip, h]

/-- **A number is read as the moment that it counts to**, if the lenient reader takes it for one,
unless it is a date of eight digits: that is midnight of this date.  Nothing is said of digits that
write a date and a time of day. -/
theorem readDate_stamp (n : Nat) :
    ((∃ m, readLenient? (intText n) = some m) ↔ n ≤ lastStamp) ∧
      ∀ m, readLenient? (intText n) = some m →
        (m.IsReal ∧ m.offset = some 0 ∧ m.microsecondsLocal = stampMicroseconds n) ∧
          (∀ date, compactDate? n = some date →
            readDate (intText n) = pure (some date.midnight.orUniversal)) ∧
          (compactDate? n = none → (∀ count ∈ [2, 4, 6], compactMoment? count n = none) →
            readDate (intText n) = pure (some m)) := by
  refine ⟨exists_readLenient?_iff n, fun m hm => ?_⟩
  have hlast : n ≤ lastStamp := (exists_readLenient?_iff n).mp ⟨m, hm⟩
  have hsmall : n < 1000000000000000 := Nat.lt_of_le_of_lt hlast (by decide)
  have hstrict := readStrict?_natDigits hsmall
  have hstamp : m.IsReal ∧ m.offset = some 0 ∧ m.microsecondsLocal = stampMicroseconds n := by
    have hfound := hm
    rw [readLenient?_natDigits, if_pos (by omega)] at hfound
    exact Moment.ofMicroseconds?_eq_some hfound
  refine ⟨hstamp, fun date hdate => readDate_natDigits ?_, fun hdate hmoment =>
    readDate_natDigits ?_⟩
  · unfold moment?
    rw [hstrict, hdate]
    rfl
  · have huniversal : m.orUniversal = m := by
      unfold Moment.orUniversal
      rw [hstamp.2.1]
      show { m with offset := some 0 } = m
      rw [← hstamp.2.1]
    unfold moment?
    rw [hstrict, hdate]
    dsimp only
    -- Of the numbers of digits that are left, only these write a time of day.
    have hnone (count : Nat) : compactMoment? count n = none := by
      by_cases hcount : count ∈ [2, 4, 6]
      · exact hmoment count hcount
      · exact compactMoment?_of_notMem hcount n
    rw [hnone, Option.none_or, hm, Option.map_some, huniversal]

/-- Ten digits count seconds, and thirteen milliseconds. -/
theorem readDate_stamp_samples :
    readDate (intText 1705276800) = pure (some ⟨⟨2024, 1, 15⟩, 0, 0, 0, 0, some 0⟩) ∧
      readDate (intText 1705276800250) =
        pure (some ⟨⟨2024, 1, 15⟩, 0, 0, 0, 250000, some 0⟩) ∧
      readDate (intText 20240101) = pure (some ⟨⟨2024, 1, 1⟩, 0, 0, 0, 0, some 0⟩) :=
  ⟨((readDate_stamp 1705276800).2 _ (by decide +kernel)).2.2 (by decide) (by decide +kernel),
    ((readDate_stamp 1705276800250).2 _ (by decide +kernel)).2.2 (by decide) (by decide +kernel),
    ((readDate_stamp 20240101).2 ⟨⟨1970, 8, 23⟩, 6, 15, 1, 0, some 0⟩ (by decide +kernel)).2.1
      ⟨2024, 1, 1⟩ (by decide)⟩

/-- **A number of seconds that is a date of eight digits is not read as what it counts to.** -/
theorem stamp_read_as_date :
    ∃ m, readLenient? (intText 20240101) = some m ∧ m.microsecondsLocal = 20240101 * 1000000 ∧
      (readDate (intText 20240101)).value ≠ some m :=
  ⟨⟨⟨1970, 8, 23⟩, 6, 15, 1, 0, some 0⟩, by decide +kernel, by decide +kernel, by decide +kernel⟩

end ReleaseSearch.Results
