import ReleaseSearch.Proofs.Decimal.Digits
import ReleaseSearch.Proofs.Text.Utf8
import ReleaseSearch.Proofs.Time.Calendar
import ReleaseSearch.Time.Read

/-!
# Numbers read as dates

A text of digits alone may be a number of seconds or milliseconds, and it may be a date in the
compact form.  The lenient reader takes every such text for a number, as what is written in full has
hyphens.  The strict reader takes it for a date if it can: eight digits that write a date
(`compactDate?`), or these with one more digit and the two, four or six digits of a time of day
(`compactMoment?`).
-/

namespace ReleaseSearch.Time

open Text Decimal

variable {cs : List Char}

/-! ## Digits -/

/-- A number of fixed width is read off a text of digits that is long enough. -/
theorem digits?_of_areDigits (h : AreDigits cs) (n : Nat) :
    digits? n cs =
      if n ≤ cs.length then some (digitsValue (cs.take n), cs.drop n) else none := by
  have hall : (cs.take n).all isAsciiDigit = true :=
    areDigits_iff.mp (h.sublist (List.take_sublist n cs))
  unfold digits?
  simp only [List.length_take, hall, and_true, ofDigits_map]
  exact if_congr (by omega) rfl rfl

/-! ## The lenient forms -/

/-- What is written in full has a hyphen after the year. -/
theorem readFull?_of_areDigits (h : AreDigits cs) : readFull? cs = none := by
  unfold readFull?
  refine Option.bind_eq_none_iff.mpr fun found hfound => ?_
  refine Option.bind_eq_none_iff.mpr fun rest hrest => ?_
  rw [digits?_of_areDigits h] at hfound
  split at hfound
  · cases hfound
    dsimp only at hrest
    split at hrest
    · next rest' hhyphen =>
        have hmem : '-' ∈ cs := List.mem_of_mem_drop (i := 4) (by rw [hhyphen]; simp)
        exact absurd (h '-' hmem) (by decide)
    · cases hrest
  · cases hfound

/-- A text of digits is a whole number. -/
theorem readStamp?_of_areDigits (h : AreDigits cs) (hne : cs ≠ []) :
    readStamp? cs =
      if digitsValue cs < 9223372036854775808 then some (.whole (digitsValue cs)) else none := by
  have hpow : Int.pow 2 63 = 9223372036854775808 := by decide
  unfold readStamp?
  split
  next negative body hsign =>
  obtain ⟨rfl, rfl⟩ : negative = false ∧ body = cs := by
    split at hsign
    · exact absurd (h '-' List.mem_cons_self) (by decide)
    · exact absurd (h '+' List.mem_cons_self) (by decide)
    · cases hsign
      exact ⟨rfl, rfl⟩
  simp only [h.takeWhile_eq, List.isEmpty_iff, hne, if_false, ofDigits_map, hpow, List.drop_length,
    Bool.false_eq_true]
  split
  · next hlarge => rw [if_neg (by omega)]
  · next hsmall => rw [if_pos (by omega)]

/-- The microseconds that a whole number stands for: it counts seconds, or milliseconds if it is
beyond the watershed. -/
def stampMicroseconds (n : Nat) : Int := if n ≤ 20000000000 then n * 1000000 else n * 1000

/-- The last number of milliseconds that has a date. -/
def lastStamp : Nat := 253402300799999

/-- **A text of digits is read as the number that it is.** -/
theorem readLenient?_natDigits (n : Nat) :
    readLenient? (intText n) =
      if n < 9223372036854775808 then Moment.ofMicroseconds? (stampMicroseconds n) else none := by
  have hstamp : ofStamp? n = Moment.ofMicroseconds? (stampMicroseconds n) := by
    unfold ofStamp? stampMicroseconds watershed
    exact congrArg _ (if_congr (by omega) rfl rfl)
  have hdigits := areDigits_natDigits n
  unfold readLenient?
  rw [intText_natCast, String.toList_ofList, readFull?_of_areDigits hdigits,
    readStamp?_of_areDigits hdigits (natDigits_ne_nil n), digitsValue_natDigits, ← hstamp]
  by_cases hsmall : n < 9223372036854775808
  · rw [if_pos hsmall, if_pos hsmall]
  · rw [if_neg hsmall, if_neg hsmall]

theorem exists_readLenient?_iff (n : Nat) :
    (∃ m, readLenient? (intText n) = some m) ↔ n ≤ lastStamp := by
  have hstamp : (firstMicrosecond ≤ stampMicroseconds n ∧ stampMicroseconds n ≤ lastMicrosecond) ↔
      n ≤ lastStamp := by
    unfold firstMicrosecond lastMicrosecond stampMicroseconds lastStamp
    split <;> omega
  rw [readLenient?_natDigits]
  split
  · rw [Moment.exists_ofMicroseconds?_iff, hstamp]
  · next hlarge =>
      unfold lastStamp
      simp only [reduceCtorEq, exists_false, false_iff]
      omega

/-! ## The strict forms -/

def compactDate? (n : Nat) : Option Date :=
  if 10000000 ≤ n ∧ n < 100000000 then Date.of? (n / 10000) (n / 100 % 100) (n % 100) else none

/-- The time of day that two, four or six digits write. -/
def compactClock? (count n : Nat) : Option Clock :=
  match count with
  | 2 => some { hour := n }
  | 4 => some { hour := n / 100, minute := n % 100 }
  | 6 => some { hour := n / 10000, minute := n / 100 % 100, second := n % 100 }
  | _ => none

/-- The moment that digits write which are those of a date, one more, and the `count` digits of a
time of day. -/
def compactMoment? (count n : Nat) : Option Moment := do
  let date ← compactDate? (n / (10 * 10 ^ count))
  let clock ← compactClock? count (n % 10 ^ count)
  Moment.of? date clock.hour clock.minute clock.second clock.microsecond none

/-- A text of at least eight digits has a date of eight, or none. -/
theorem dateLength_of_areDigits (h : AreDigits cs) (hlength : 8 ≤ cs.length) :
    dateLength cs = some 8 := by
  have hplace : ∀ c : Char, isAsciiDigit c = false → (cs[4]? == some c) = false := by
    intro c hc
    rw [beq_eq_false_iff_ne]
    intro hfourth
    have := h c (List.mem_of_getElem? hfourth)
    rw [hc] at this
    cases this
  unfold dateLength
  simp only [hplace '-' (by decide), hplace 'W' (by decide), Bool.false_eq_true, if_false]
  rw [if_neg (by omega)]

/-- Digits are a date without hyphens. -/
theorem readDate?_of_areDigits (h : AreDigits cs) (length : Nat) :
    readDate? length cs =
      (digits? 4 cs).bind fun year =>
        (digits? 2 year.2).bind fun month =>
          (digits? 2 month.2).bind fun day =>
            if cs.length - day.2.length = length then Date.of? year.1 month.1 day.1 else none := by
  unfold readDate?
  cases hyear : digits? 4 cs with
  | none => rfl
  | some year =>
      obtain ⟨year, rest⟩ := year
      have hrest : AreDigits rest := by
        rw [digits?_of_areDigits h] at hyear
        split at hyear
        · cases hyear
          exact h.sublist (List.drop_sublist 4 cs)
        · cases hyear
      cases rest with
      | nil => rfl
      | cons c rest =>
          -- Neither the hyphen nor the mark of a week is a digit.
          have hc := hrest c List.mem_cons_self
          have hminus : c ≠ '-' := ne_of_isAsciiDigit hc (by decide)
          have hweek : c ≠ 'W' := ne_of_isAsciiDigit hc (by decide)
          simp [hminus, hweek]

theorem readDate?_of_short (h : AreDigits cs) (hlength : cs.length < 8) (length : Nat) :
    readDate? length cs = none := by
  rw [readDate?_of_areDigits h, Option.bind_eq_none_iff]
  intro year hyear
  rw [Option.bind_eq_none_iff]
  intro month hmonth
  rw [digits?_of_areDigits h] at hyear
  split at hyear
  · cases hyear
    have hrest := h.sublist (List.drop_sublist 4 cs)
    rw [digits?_of_areDigits hrest] at hmonth
    split at hmonth
    · cases hmonth
      rw [digits?_of_areDigits (hrest.sublist (List.drop_sublist 2 _)), if_neg]
      · rfl
      · simp only [List.length_drop]
        omega
    · cases hmonth
  · cases hyear

/-- The date that the first eight digits of a text write. -/
theorem readDate?_eight (h : AreDigits cs) (hlength : 8 ≤ cs.length) :
    readDate? 8 cs =
      Date.of? (digitsValue (cs.take 8) / 10000) (digitsValue (cs.take 8) / 100 % 100)
        (digitsValue (cs.take 8) % 100) := by
  have hmonth : AreDigits (cs.drop 4) := h.sublist (List.drop_sublist 4 cs)
  have hday : AreDigits (cs.drop 6) := h.sublist (List.drop_sublist 6 cs)
  have hparts : cs.take 8 = (cs.take 4 ++ (cs.drop 4).take 2) ++ (cs.drop 6).take 2 := by
    rw [show 8 = 4 + 2 + 2 by rfl, List.take_add, List.take_add]
  have hlengths : ((cs.drop 4).take 2).length = 2 ∧ ((cs.drop 6).take 2).length = 2 := by
    simp only [List.length_take, List.length_drop]
    omega
  obtain ⟨hmonths, hmonthlt⟩ :=
    (hmonth.sublist (List.take_sublist 2 _)).digitsValue_append_two (cs.take 4) hlengths.1
  obtain ⟨hdays, hdaylt⟩ := (hday.sublist (List.take_sublist 2 _)).digitsValue_append_two
    (cs.take 4 ++ (cs.drop 4).take 2) hlengths.2
  rw [readDate?_of_areDigits h, digits?_of_areDigits h, if_pos (by omega), Option.bind_some,
    digits?_of_areDigits hmonth, if_pos (by rw [List.length_drop]; omega), Option.bind_some,
    List.drop_drop, digits?_of_areDigits hday, if_pos (by rw [List.length_drop]; omega),
    Option.bind_some, if_pos (by simp only [List.length_drop]; omega), hparts, hdays, hmonths]
  -- With the three numbers named, what is left is division by powers of ten.
  generalize digitsValue (cs.take 4) = year at *
  generalize digitsValue ((cs.drop 4).take 2) = month at *
  generalize digitsValue ((cs.drop 6).take 2) = day at *
  congr 1 <;> omega

/-- Two digits of a time of day, and what follows them. -/
theorem readClockFrom?_of_areDigits {colons : Option Bool} (hcolons : colons ≠ some true)
    {front rest : List Char} (hfront : AreDigits front) (htwo : front.length = 2)
    (hrest : AreDigits rest) (clock : Clock) (left rank : Nat) :
    readClockFrom? colons clock (left + 1) rank (front ++ rest) =
      match rest with
      | [] => some (clock.set rank (digitsValue front), true)
      | [_] => some (clock.set rank (digitsValue front), false)
      | rest =>
          readClockFrom? (some false) (clock.set rank (digitsValue front)) left (rank + 1)
            rest := by
  have hdigits : digits? 2 (front ++ rest) = some (digitsValue front, rest) := by
    rw [digits?_of_areDigits (areDigits_append.mpr ⟨hfront, hrest⟩), ← htwo, if_pos (by simp),
      List.take_left, List.drop_left]
  rw [readClockFrom?, hdigits]
  match rest with
  | [] => rfl
  | [_] => rfl
  | c :: d :: rest =>
      have hc := hrest c List.mem_cons_self
      have hcolon : c ≠ ':' := ne_of_isAsciiDigit hc (by decide)
      have hpoint : c ≠ '.' := ne_of_isAsciiDigit hc (by decide)
      have hcomma : c ≠ ',' := ne_of_isAsciiDigit hc (by decide)
      -- a digit is no colon, so a clock that starts without colons goes on without them
      have hnone : colons.getD (c == ':') = false := by
        cases colons with
        | none => exact beq_eq_false_iff_ne.mpr hcolon
        | some b =>
            cases b with
            | false => rfl
            | true => exact absurd rfl hcolons
      simp [hpoint, hcomma, hnone]

/-- The time of day that a text of at most six digits writes. -/
theorem readClock?_of_areDigits (h : AreDigits cs) (hlength : cs.length ≤ 6) :
    ((readClock? cs).bind fun found => if found.2 then some found.1 else none) =
      compactClock? cs.length (digitsValue cs) := by
  have hnone : (none : Option Bool) ≠ some true := by decide
  have hfalse : some false ≠ some true := by decide
  unfold readClock?
  -- Two digits are read at a time, so the number of digits decides which parts are read; an odd
  -- digit at the end is left over, and then there is no clock.
  match cs with
  | [] => rfl
  | [_] => rfl
  | [a, b] =>
      rw [show readClockFrom? none {} 3 0 [a, b] = _ from
        readClockFrom?_of_areDigits hnone h rfl areDigits_nil {} 2 0]
      rfl
  | [a, b, c] =>
      obtain ⟨hfirst, hrest⟩ : AreDigits [a, b] ∧ AreDigits [c] := areDigits_append.mp h
      rw [show readClockFrom? none {} 3 0 [a, b, c] = _ from
        readClockFrom?_of_areDigits hnone hfirst rfl hrest {} 2 0]
      rfl
  | [a, b, c, d] =>
      obtain ⟨hfirst, hsecond⟩ : AreDigits [a, b] ∧ AreDigits [c, d] := areDigits_append.mp h
      obtain ⟨hsum, hlt⟩ := hsecond.digitsValue_append_two [a, b] rfl
      rw [show readClockFrom? none {} 3 0 [a, b, c, d] = _ from
        (readClockFrom?_of_areDigits hnone hfirst rfl hsecond {} 2 0).trans
          (readClockFrom?_of_areDigits hfalse hsecond rfl areDigits_nil _ 1 1)]
      show some (⟨digitsValue [a, b], digitsValue [c, d], 0, 0⟩ : Clock) =
        compactClock? 4 (digitsValue ([a, b] ++ [c, d]))
      rw [hsum]
      unfold compactClock?
      -- the parts are the quotients and the remainders of the whole number
      congr 2 <;> omega
  | [a, b, c, d, e] =>
      obtain ⟨hfirst, hrest⟩ : AreDigits [a, b] ∧ AreDigits [c, d, e] := areDigits_append.mp h
      obtain ⟨hsecond, hthird⟩ : AreDigits [c, d] ∧ AreDigits [e] := areDigits_append.mp hrest
      rw [show readClockFrom? none {} 3 0 [a, b, c, d, e] = _ from
        (readClockFrom?_of_areDigits hnone hfirst rfl hrest {} 2 0).trans
          (readClockFrom?_of_areDigits hfalse hsecond rfl hthird _ 1 1)]
      rfl
  | [a, b, c, d, e, f] =>
      obtain ⟨hfirst, hrest⟩ : AreDigits [a, b] ∧ AreDigits [c, d, e, f] := areDigits_append.mp h
      obtain ⟨hsecond, hthird⟩ : AreDigits [c, d] ∧ AreDigits [e, f] := areDigits_append.mp hrest
      obtain ⟨hsum, hlt⟩ := hthird.digitsValue_append_two [a, b, c, d] rfl
      obtain ⟨hsum', hlt'⟩ := hsecond.digitsValue_append_two [a, b] rfl
      rw [show readClockFrom? none {} 3 0 [a, b, c, d, e, f] = _ from
        (readClockFrom?_of_areDigits hnone hfirst rfl hrest {} 2 0).trans
          ((readClockFrom?_of_areDigits hfalse hsecond rfl hthird _ 1 1).trans
            (readClockFrom?_of_areDigits hfalse hthird rfl areDigits_nil _ 0 2))]
      show some (⟨digitsValue [a, b], digitsValue [c, d], digitsValue [e, f], 0⟩ : Clock) =
        compactClock? 6 (digitsValue ([a, b, c, d] ++ [e, f]))
      rw [hsum, show digitsValue [a, b, c, d] = _ from hsum']
      unfold compactClock?
      congr 2 <;> omega
  | a :: b :: c :: d :: e :: f :: g :: rest =>
      simp only [List.length_cons] at hlength
      omega

/-- A time of day that is all digits has no offset. -/
theorem readTime?_of_areDigits (h : AreDigits cs) (hlength : cs.length ≤ 6) :
    readTime? cs = (compactClock? cs.length (digitsValue cs)).map (·, none) := by
  have hstart : ∀ c ∈ cs, startsOffset c = false := by
    intro c hc
    have hdigit := h c hc
    have hplus : c ≠ '+' := ne_of_isAsciiDigit hdigit (by decide)
    have hminus : c ≠ '-' := ne_of_isAsciiDigit hdigit (by decide)
    have hzulu : c ≠ 'Z' := ne_of_isAsciiDigit hdigit (by decide)
    simp [startsOffset, hplus, hminus, hzulu]
  -- No digit starts an offset, so the clock takes everything.
  have hall : (cs.takeWhile (!startsOffset ·)).length = cs.length := by
    rw [List.takeWhile_eq_self_iff.mpr]
    intro c hc
    rw [hstart c hc]
    rfl
  have hfirst : ((cs.take 1).head?.map startsOffset).getD false = false := by
    cases cs with
    | nil => rfl
    | cons c rest => exact hstart c List.mem_cons_self
  rw [← readClock?_of_areDigits h hlength]
  unfold readTime?
  simp only [hfirst, Bool.false_eq_true, if_false, hall, List.take_length, List.drop_length]
  cases readClock? cs with
  | none => rfl
  | some found =>
      obtain ⟨clock, complete⟩ := found
      cases complete <;> rfl

theorem compactDate?_of_small {n : Nat} (h : n < 10000000) : compactDate? n = none := by
  unfold compactDate?
  rw [if_neg (by omega)]

theorem compactDate?_of_large {n : Nat} (h : 100000000 ≤ n) : compactDate? n = none := by
  unfold compactDate?
  rw [if_neg (by omega)]

/-- No other number of digits writes a time of day. -/
theorem compactMoment?_of_notMem {count : Nat} (h : count ∉ [2, 4, 6]) (n : Nat) :
    compactMoment? count n = none := by
  have hclock (v : Nat) : compactClock? count v = none := by
    unfold compactClock?
    split
    · exact absurd (by decide) h
    · exact absurd (by decide) h
    · exact absurd (by decide) h
    · rfl
  unfold compactMoment?
  cases compactDate? (n / (10 * 10 ^ count)) with
  | none => rfl
  | some date =>
      show (compactClock? count (n % 10 ^ count)).bind _ = none
      rw [hclock]
      rfl

/-- Digits are taken apart by division. -/
theorem div_mod_of_parts {n front digit back p : Nat}
    (h : n = front * (10 * p) + (digit * p + back)) (hdigit : digit < 10) (hback : back < p) :
    n / (10 * p) = front ∧ n % p = back := by
  have hle : digit * p ≤ 9 * p := Nat.mul_le_mul_right p (by omega)
  constructor
  · refine Nat.div_eq_of_lt_le (by omega) ?_
    rw [Nat.succ_mul]
    omega
  · have hn : n = back + p * (10 * front + digit) := by
      rw [h]
      ring
    rw [hn, Nat.add_mul_mod_self_left, Nat.mod_eq_of_lt hback]

/-- What the first eight digits say, and the digits from the tenth on, for a number of nine digits
or more. -/
theorem digitsValue_parts {n : Nat} (hlength : 9 ≤ (natDigits n).length) :
    digitsValue ((natDigits n).take 8) = n / (10 * 10 ^ ((natDigits n).length - 9)) ∧
      digitsValue ((natDigits n).drop 9) = n % 10 ^ ((natDigits n).length - 9) := by
  have hdigits := areDigits_natDigits n
  have hdrop : (natDigits n).drop 9 = ((natDigits n).drop 8).drop 1 := by rw [List.drop_drop]
  -- eight digits, one that is passed over, and the rest
  have hparts : natDigits n =
      (natDigits n).take 8 ++ (((natDigits n).drop 8).take 1 ++ (natDigits n).drop 9) := by
    rw [hdrop, List.take_append_drop, List.take_append_drop]
  have hone : (((natDigits n).drop 8).take 1).length = 1 := by
    rw [List.length_take, List.length_drop]
    omega
  have hdigit := (hdigits.sublist
    ((List.take_sublist 1 _).trans (List.drop_sublist 8 _))).digitsValue_lt
  have hback := (hdigits.sublist (List.drop_sublist 9 (natDigits n))).digitsValue_lt
  have hsum := congrArg digitsValue hparts
  rw [hone, Nat.pow_one] at hdigit
  rw [List.length_drop] at hback
  rw [digitsValue_append, digitsValue_append, List.length_append, hone, digitsValue_natDigits,
    List.length_drop, Nat.pow_add, Nat.pow_one] at hsum
  obtain ⟨hfront, hrest⟩ := div_mod_of_parts hsum hdigit hback
  exact ⟨hfront.symm, hrest.symm⟩

/-- A number of nine digits or more has eight digits that are not all zero before the last ones. -/
theorem le_front {n : Nat} (hlength : 9 ≤ (natDigits n).length) :
    10000000 ≤ n / (10 * 10 ^ ((natDigits n).length - 9)) := by
  have hlow := pow_le_of_length (n := n) (by omega)
  have hpower : 10 ^ ((natDigits n).length - 1) =
      10000000 * (10 * 10 ^ ((natDigits n).length - 9)) := by
    rw [show (natDigits n).length - 1 = 8 + ((natDigits n).length - 9) by omega, Nat.pow_add]
    omega
  rw [hpower] at hlow
  exact (Nat.le_div_iff_mul_le (Nat.mul_pos (by decide) (Nat.pow_pos (by decide)))).mpr hlow

theorem bytesOf_of_isAsciiDigit {c : Char} (h : isAsciiDigit c = true) : bytesOf c = 1 := by
  have := isAsciiDigit_iff.mp h
  unfold bytesOf
  rw [if_pos (by omega)]

/-- Digits are read as they are. -/
theorem readStrict?_intText (n : Nat) :
    readStrict? (intText n) =
      if (natDigits n).length < 7 then none
      else (dateLength (natDigits n)).bind fun length =>
        (readDate? length (natDigits n)).bind fun date =>
          match (natDigits n).drop length with
          | [] => some date.midnight
          | c :: rest => (readTime? ((c :: rest).drop (bytesOf c))).bind fun (clock, offset) =>
              Moment.of? date clock.hour clock.minute clock.second clock.microsecond offset := by
  have hascii : ∀ c ∈ natDigits n, c.toNat < 0x80 := by
    intro c hc
    have := isAsciiDigit_iff.mp (areDigits_natDigits n c hc)
    omega
  unfold readStrict?
  rw [intText_natCast, String.toList_ofList, Utf8.encode_of_ascii hascii]
  rfl

theorem readStrict?_of_short {n : Nat} (hshort : (natDigits n).length < 8) :
    readStrict? (intText n) = none := by
  rw [readStrict?_intText]
  split
  · rfl
  · refine Option.bind_eq_none_iff.mpr fun length _ => ?_
    rw [readDate?_of_short (areDigits_natDigits n) hshort]
    rfl

theorem readStrict?_of_eight {n : Nat} (height : (natDigits n).length = 8) :
    readStrict? (intText n) = (compactDate? n).map Date.midnight := by
  have hdigits := areDigits_natDigits n
  have hlow : 10 ^ 7 ≤ n := by
    have := pow_le_of_length (n := n) (by omega)
    rwa [height] at this
  have hhigh : n < 10 ^ 8 := (length_natDigits_le_iff (by decide)).mp (by omega)
  have hdate : compactDate? n = Date.of? (n / 10000) (n / 100 % 100) (n % 100) :=
    if_pos ⟨hlow, hhigh⟩
  rw [readStrict?_intText, if_neg (by omega), dateLength_of_areDigits hdigits (by omega)]
  show (readDate? 8 (natDigits n)).bind _ = _
  rw [readDate?_eight hdigits (by omega), hdate, ← height, List.take_length, List.drop_length,
    digitsValue_natDigits]
  cases Date.of? (n / 10000) (n / 100 % 100) (n % 100) <;> rfl

/-- After the date comes one more digit, whichever it is. -/
theorem exists_ninth (h : AreDigits cs) (hlength : 9 ≤ cs.length) :
    ∃ c, cs.drop 8 = c :: cs.drop 9 ∧ isAsciiDigit c = true := by
  have hdrop : cs.drop 9 = (cs.drop 8).drop 1 := by rw [List.drop_drop]
  have hmem := h.sublist (List.drop_sublist 8 cs)
  have height : (cs.drop 8).length = cs.length - 8 := List.length_drop
  rw [hdrop]
  cases hrest : cs.drop 8 with
  | nil =>
      rw [hrest, List.length_nil] at height
      omega
  | cons c rest =>
      rw [hrest] at hmem
      exact ⟨c, rfl, hmem c List.mem_cons_self⟩

theorem readStrict?_of_long {n : Nat} (hlong : 9 ≤ (natDigits n).length)
    (hlength : (natDigits n).length ≤ 15) :
    readStrict? (intText n) = compactMoment? ((natDigits n).length - 9) n := by
  have hdigits := areDigits_natDigits n
  obtain ⟨hfront, hback⟩ := digitsValue_parts hlong
  have hclock := readTime?_of_areDigits (hdigits.sublist (List.drop_sublist 9 _))
    (by rw [List.length_drop]; omega)
  rw [List.length_drop, hback] at hclock
  have hhigh : digitsValue ((natDigits n).take 8) < 10 ^ 8 := by
    have := (hdigits.sublist (List.take_sublist 8 _)).digitsValue_lt
    rwa [List.length_take, Nat.min_eq_left (by omega)] at this
  rw [hfront] at hhigh
  -- The ninth digit is what separates the date from the clock, as any character does.
  obtain ⟨c, hninth, hc⟩ := exists_ninth hdigits hlong
  rw [readStrict?_intText, if_neg (by omega), dateLength_of_areDigits hdigits (by omega)]
  show (readDate? 8 (natDigits n)).bind _ = compactMoment? _ n
  unfold compactMoment?
  rw [readDate?_eight hdigits (by omega), hfront, hninth, compactDate?,
    if_pos ⟨le_front hlong, hhigh⟩]
  cases Date.of? _ _ _ with
  | none => rfl
  | some date =>
      show (readTime? ((c :: (natDigits n).drop 9).drop (bytesOf c))).bind _ =
        (compactClock? _ _).bind _
      rw [bytesOf_of_isAsciiDigit hc, List.drop_one, List.tail_cons, hclock]
      cases compactClock? _ _ <;> rfl

/-- **What the strict reader makes of digits**, of which there are at most fifteen: a date, or a
date with a time of day. -/
theorem readStrict?_natDigits {n : Nat} (h : n < 1000000000000000) :
    readStrict? (intText n) =
      match compactDate? n with
      | some date => some date.midnight
      | none => compactMoment? ((natDigits n).length - 9) n := by
  have hlength : (natDigits n).length ≤ 15 := (length_natDigits_le_iff (by decide)).mpr h
  rcases Nat.lt_trichotomy (natDigits n).length 8 with hshort | height | hlong
  · have hsmall : n < 10 ^ 7 := (length_natDigits_le_iff (by decide)).mp (by omega)
    rw [readStrict?_of_short hshort, compactDate?_of_small hsmall,
      show (natDigits n).length - 9 = 0 by omega]
    exact (compactMoment?_of_notMem (by decide) n).symm
  · rw [readStrict?_of_eight height, height, compactMoment?_of_notMem (by decide)]
    cases compactDate? n <;> rfl
  · have hlarge : 10 ^ 8 ≤ n :=
      Nat.le_trans (Nat.pow_le_pow_right (by decide) (by omega)) (pow_le_of_length (by omega))
    rw [readStrict?_of_long hlong hlength, compactDate?_of_large hlarge]

end ReleaseSearch.Time
