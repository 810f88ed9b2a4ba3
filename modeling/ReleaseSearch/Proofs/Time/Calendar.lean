import Mathlib.Data.List.Basic
import ReleaseSearch.Time.Calendar

/-!
# Days and dates

A date is found from its number in two steps, the year and then the month.  Each step looks for the
place in a row of sums:

    daysBeforeYear year < n ≤ daysBeforeYear (year + 1)
    daysBeforeMonth year month < rest ≤ daysBeforeMonth year (month + 1)

So every number of the range is the number of one date, and every count of microseconds is that of
one moment.
-/

namespace ReleaseSearch.Time

/-! ## Years -/

theorem daysBeforeYear_eq (year : Nat) :
    daysBeforeYear year = ((year : Int) - 1) * 365 + ((year : Int) - 1) / 4 -
      ((year : Int) - 1) / 100 + ((year : Int) - 1) / 400 := by
  unfold daysBeforeYear
  simp only [Int.fdiv_eq_ediv_of_nonneg _ (by decide : (0 : Int) ≤ 4),
    Int.fdiv_eq_ediv_of_nonneg _ (by decide : (0 : Int) ≤ 100),
    Int.fdiv_eq_ediv_of_nonneg _ (by decide : (0 : Int) ≤ 400)]

theorem isLeap_iff (year : Nat) :
    isLeap year = true ↔ year % 4 = 0 ∧ (year % 100 ≠ 0 ∨ year % 400 = 0) := by
  simp [isLeap]

def daysInYear (year : Nat) : Nat := if isLeap year then 366 else 365

theorem daysBeforeYear_succ (year : Nat) :
    daysBeforeYear (year + 1) = daysBeforeYear year + daysInYear year := by
  have hleap := isLeap_iff year
  rw [daysBeforeYear_eq, daysBeforeYear_eq]
  unfold daysInYear
  split
  · next h =>
      have := hleap.mp h
      omega
  · next h =>
      have := mt hleap.mpr h
      omega

/-- The year that the search starts from: years are taken to have the same length. -/
def guessedYear (n : Int) : Nat := (n.toNat - 1) * 400 / 146097 + 1

def yearOf (n : Int) : Nat :=
  if daysBeforeYear (guessedYear n + 1) < n then guessedYear n + 1
  else if daysBeforeYear (guessedYear n) ≥ n then guessedYear n - 1
  else guessedYear n

/-- **The year of a number**: it has begun, and the next one has not. -/
theorem yearOf_spec {n : Int} (h : 1 ≤ n) :
    1 ≤ yearOf n ∧ daysBeforeYear (yearOf n) < n ∧ n ≤ daysBeforeYear (yearOf n + 1) := by
  have hlow : 146097 * (((guessedYear n : Nat) : Int) - 1) ≤ (n - 1) * 400 := by
    unfold guessedYear
    omega
  have hhigh : (n - 1) * 400 < 146097 * ((guessedYear n : Nat) : Int) := by
    unfold guessedYear
    omega
  have hpos : 1 ≤ guessedYear n := Nat.succ_le_succ (Nat.zero_le _)
  -- With these bounds the guess is right, or one off.
  unfold yearOf
  generalize guessedYear n = g at *
  simp only [daysBeforeYear_eq]
  split
  · omega
  · split
    · omega
    · omega

/-! ## Months -/

theorem daysBeforeMonth_one (year : Nat) : daysBeforeMonth year 1 = 0 := rfl

theorem daysBeforeMonth_succ (year : Nat) {month : Nat} (h : 1 ≤ month) :
    daysBeforeMonth year (month + 1) = daysBeforeMonth year month + daysInMonth year month := by
  obtain ⟨k, rfl⟩ : ∃ k, month = k + 1 := ⟨month - 1, by omega⟩
  have hsum (ns : List Nat) (b : Nat) :
      ns.foldr (· + ·) b = ns.foldr (· + ·) 0 + b := by
    induction ns with
    | nil => exact (Nat.zero_add b).symm
    | cons n ns ih => rw [List.foldr_cons, List.foldr_cons, ih, Nat.add_assoc]
  unfold daysBeforeMonth
  rw [Nat.add_sub_cancel, Nat.add_sub_cancel, List.range_succ, List.map_append, List.foldr_append,
    hsum]
  rfl

/-- The months make up the year. -/
theorem daysBeforeMonth_thirteen (year : Nat) : daysBeforeMonth year 13 = daysInYear year := by
  unfold daysInYear daysBeforeMonth daysInMonth
  generalize isLeap year = b
  cases b <;> rfl

/-- **The month and the day of a day of the year**: the induction is on the months that are left,
and says that what is passed over is what the months before have. -/
theorem monthDay_spec (year : Nat) {left month rest : Nat} (hmonth : 1 ≤ month)
    (hrest : daysBeforeMonth year month + rest < daysBeforeMonth year (month + left + 1)) :
    month ≤ (monthDay year left month rest).1 ∧
      (monthDay year left month rest).1 ≤ month + left ∧
      1 ≤ (monthDay year left month rest).2 ∧
      (monthDay year left month rest).2 ≤ daysInMonth year (monthDay year left month rest).1 ∧
      daysBeforeMonth year (monthDay year left month rest).1 + (monthDay year left month rest).2 =
        daysBeforeMonth year month + rest + 1 := by
  induction left generalizing month rest with
  | zero =>
      rw [Nat.add_zero, daysBeforeMonth_succ year hmonth] at hrest
      simp only [monthDay]
      omega
  | succ left ih =>
      unfold monthDay
      split
      -- the day lies in this month
      · simp only
        omega
      -- the day lies in a later month: the days of this one are taken off the rest
      · next hlong =>
          have hnext : daysBeforeMonth year (month + 1) + (rest - daysInMonth year month) =
              daysBeforeMonth year month + rest := by
            rw [daysBeforeMonth_succ year hmonth]
            omega
          have hplace : month + (left + 1) + 1 = month + 1 + left + 1 := by omega
          rw [← hnext, hplace] at hrest
          have hfound := ih (Nat.le_add_left 1 month) hrest
          rw [hnext] at hfound
          omega

/-! ## Dates -/

def Date.IsReal (d : Date) : Prop := Date.of? d.year d.month d.day = some d

theorem Date.isReal_iff {d : Date} :
    d.IsReal ↔ (1 ≤ d.year ∧ d.year ≤ lastYear) ∧ (1 ≤ d.month ∧ d.month ≤ 12) ∧
      1 ≤ d.day ∧ d.day ≤ daysInMonth d.year d.month := by
  unfold IsReal of?
  split
  · next h =>
      simp only [true_iff]
      omega
  · next h =>
      simp only [reduceCtorEq, false_iff]
      omega

theorem Date.ofNumber?_eq {n : Int} (h : 1 ≤ n) (hlast : n ≤ 3652059) :
    Date.ofNumber? n =
      some ⟨yearOf n, (monthDay (yearOf n) 11 1 (n - daysBeforeYear (yearOf n) - 1).toNat).1,
        (monthDay (yearOf n) 11 1 (n - daysBeforeYear (yearOf n) - 1).toNat).2⟩ := by
  unfold ofNumber?
  rw [if_neg (by omega)]
  rfl

theorem Date.exists_ofNumber?_iff {n : Int} :
    (∃ d, Date.ofNumber? n = some d) ↔ 1 ≤ n ∧ n ≤ 3652059 := by
  constructor
  · rintro ⟨d, h⟩
    unfold ofNumber? at h
    split at h
    · cases h
    · omega
  · rintro ⟨h, hlast⟩
    exact ⟨_, ofNumber?_eq h hlast⟩

/-- **A date found by its number has that number.** -/
theorem Date.number_of_ofNumber? {n : Int} {d : Date} (h : Date.ofNumber? n = some d) :
    d.IsReal ∧ d.number = n := by
  obtain ⟨hpos, hlast⟩ := exists_ofNumber?_iff.mp ⟨d, h⟩
  rw [ofNumber?_eq hpos hlast] at h
  obtain ⟨hyear, hbegun, hends⟩ := yearOf_spec hpos
  -- The day lies within its year, so the search for the month ends.
  have hlength : daysBeforeMonth (yearOf n) 1 + (n - daysBeforeYear (yearOf n) - 1).toNat <
      daysBeforeMonth (yearOf n) (1 + 11 + 1) := by
    rw [daysBeforeMonth_thirteen, daysBeforeMonth_one]
    rw [daysBeforeYear_succ] at hends
    omega
  obtain ⟨hlow, hhigh, hday, hmonth, hsum⟩ := monthDay_spec (yearOf n) (Nat.le_refl 1) hlength
  rw [daysBeforeMonth_one] at hsum
  have hnumber : daysBeforeYear (yearOf n) < 3652059 := by omega
  have hyears : yearOf n ≤ lastYear := by
    rw [daysBeforeYear_eq] at hnumber
    unfold lastYear
    omega
  obtain rfl := Option.some.inj h
  constructor
  · exact isReal_iff.mpr ⟨⟨hyear, hyears⟩, ⟨hlow, hhigh⟩, hday, hmonth⟩
  · unfold number
    simp only
    omega

/-! ## Moments -/

/-- A moment of a date of the calendar, with a time of day. -/
structure Moment.IsReal (m : Moment) : Prop where
  date : m.date.IsReal
  hour : m.hour < 24
  minute : m.minute < 60
  second : m.second < 60
  microsecond : m.microsecond < 1000000

/-- The microseconds from the start of 1970 to the end of the last year. -/
def lastMicrosecond : Int := 253402300799999999

/-- The microseconds from the start of 1970 back to the start of year 1. -/
def firstMicrosecond : Int := -62135596800000000

theorem Moment.exists_ofMicroseconds?_iff {n : Int} :
    (∃ m, Moment.ofMicroseconds? n = some m) ↔ firstMicrosecond ≤ n ∧ n ≤ lastMicrosecond := by
  have hday : (∃ m, Moment.ofMicroseconds? n = some m) ↔
      ∃ d, Date.ofNumber? (Int.fdiv n dayLength + epochNumber) = some d := by
    unfold ofMicroseconds?
    cases Date.ofNumber? (Int.fdiv n dayLength + epochNumber) <;> simp
  rw [hday, Date.exists_ofNumber?_iff, Int.fdiv_eq_ediv_of_nonneg _ (by decide)]
  unfold dayLength epochNumber firstMicrosecond lastMicrosecond
  omega

/-- **A moment found by its microseconds has that many of them.** -/
theorem Moment.ofMicroseconds?_eq_some {n : Int} {m : Moment}
    (h : Moment.ofMicroseconds? n = some m) :
    m.IsReal ∧ m.offset = some 0 ∧ m.microsecondsLocal = n := by
  unfold ofMicroseconds? at h
  obtain ⟨date, hdate, h⟩ := Option.bind_eq_some_iff.mp h
  obtain ⟨hreal, hnumber⟩ := Date.number_of_ofNumber? hdate
  obtain rfl := Option.some.inj h
  rw [Int.fdiv_eq_ediv_of_nonneg _ (by decide)] at hnumber
  have hmod : Int.fmod n dayLength = n % dayLength := Int.fmod_eq_emod_of_nonneg _ (by decide)
  unfold dayLength epochNumber at hnumber
  unfold dayLength at hmod
  refine ⟨⟨hreal, ?_, ?_, ?_, ?_⟩, rfl, ?_⟩
  · show (Int.fmod n 86400000000).toNat / 1000000 / 3600 < 24
    omega
  · show (Int.fmod n 86400000000).toNat / 1000000 / 60 % 60 < 60
    omega
  · show (Int.fmod n 86400000000).toNat / 1000000 % 60 < 60
    omega
  · show (Int.fmod n 86400000000).toNat % 1000000 < 1000000
    omega
  · unfold microsecondsLocal epochNumber dayLength
    simp only
    omega

end ReleaseSearch.Time
