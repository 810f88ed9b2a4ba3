import ReleaseSearch.Proofs.Decimal.Whole
import ReleaseSearch.Proofs.Json.Value
import ReleaseSearch.Proofs.Text.Blank

/-!
# Numerals of JSON

A numeral has a sign, digits before and after a point, and a power of ten, and most of that may be
missing.  A plain one, of a sign and digits alone, is read as a whole number and every other one as
a double.  The main statement is that what is read is worth what the numeral says, if that is a
whole number of up to fifteen digits:

    number? limited (numeral.text ++ rest) = some (.ofNumber number, rest)
    numeral.value = n → number.fraction? = some n

so `5`, `5.0` and `5e0` are read as numbers of the same worth, but not of the same kind.
-/

namespace ReleaseSearch.Json

open Text Decimal

/-! ## Numerals -/

/-- The power of ten of a numeral. -/
structure Exponent where
  isCapital : Bool := false
  /-- The sign, if one is written; `true` is a minus sign. -/
  sign : Option Bool := none
  digits : List Char

/-- A number as it is written. -/
structure Numeral where
  negative : Bool := false
  whole : List Char
  /-- The digits after the point; there is no point if there are none. -/
  fraction : List Char := []
  exponent : Option Exponent := none

def signText : Option Bool → List Char
  | none => []
  | some true => ['-']
  | some false => ['+']

namespace Exponent

def text (e : Exponent) : List Char :=
  (if e.isCapital then 'E' else 'e') :: (signText e.sign ++ e.digits)

theorem isMark (e : Exponent) :
    ((if e.isCapital then 'E' else 'e') == 'e' || (if e.isCapital then 'E' else 'e') == 'E') =
      true := by
  cases e.isCapital <;> rfl

def value (e : Exponent) : Int :=
  if e.sign = some true then -(digitsValue e.digits : Int) else digitsValue e.digits

end Exponent

namespace Numeral

def fractionText (num : Numeral) : List Char :=
  if num.fraction = [] then [] else '.' :: num.fraction

def exponentText (num : Numeral) : List Char := (num.exponent.map Exponent.text).getD []

def body (num : Numeral) : List Char := num.whole ++ (num.fractionText ++ num.exponentText)

def text (num : Numeral) : List Char := if num.negative then '-' :: num.body else num.body

/-- The number that a power of ten has, zero if there is none. -/
def exponentValue (num : Numeral) : Int := (num.exponent.map Exponent.value).getD 0

def value (num : Numeral) : Rat :=
  decimalValue num.negative (digitsValue (num.whole ++ num.fraction))
    (num.exponentValue - num.fraction.length)

/-- Whether a numeral is a sign and digits alone. -/
def isPlain (num : Numeral) : Bool := num.fraction.isEmpty && num.exponent.isNone

/-- A numeral of the format: digits are wherever they have to be, and no zero is before others. -/
structure IsValid (num : Numeral) : Prop where
  whole : AreDigits num.whole
  whole_ne_nil : num.whole ≠ []
  zero_alone : ∀ rest, num.whole = '0' :: rest → rest = []
  fraction : AreDigits num.fraction
  exponent : ∀ e ∈ num.exponent, AreDigits e.digits ∧ e.digits ≠ []

end Numeral

/-- What may follow a numeral. -/
def EndsNumeral (rest : List Char) : Prop :=
  ∀ c ∈ rest.head?, isAsciiDigit c = false ∧ c ≠ '.' ∧ c ≠ 'e' ∧ c ≠ 'E'

theorem endsNumeral_nil : EndsNumeral [] := nofun

/-! ## Digits -/

/-- A run of digits ends at what is no digit. -/
theorem takeWhile_digits {digits rest : List Char} (h : AreDigits digits)
    (hrest : ∀ c ∈ rest.head?, isAsciiDigit c = false) :
    (digits ++ rest).takeWhile isAsciiDigit = digits := by
  have hnone : rest.takeWhile isAsciiDigit = [] := by
    cases rest with
    | nil => rfl
    | cons c rest => exact List.takeWhile_cons_of_neg (by simp [hrest c rfl])
  rw [List.takeWhile_append_of_pos h, hnone, List.append_nil]

theorem dropWhile_digits {digits rest : List Char} (h : AreDigits digits)
    (hrest : ∀ c ∈ rest.head?, isAsciiDigit c = false) :
    (digits ++ rest).dropWhile isAsciiDigit = rest := by
  rw [List.dropWhile_append_of_pos h]
  cases rest with
  | nil => rfl
  | cons c rest => exact List.dropWhile_cons_of_neg (by simp [hrest c rfl])

/-- A text without underscores is left as it is. -/
theorem dropUnderscores?_of_notMem {cs : List Char} (h : '_' ∉ cs) (afterDigit : Bool) :
    dropUnderscores? afterDigit cs = some cs := by
  induction cs generalizing afterDigit with
  | nil => rfl
  | cons c cs ih =>
      obtain ⟨hc, hcs⟩ : '_' ≠ c ∧ '_' ∉ cs := by simpa using h
      have hother : (c == '_') = false := beq_eq_false_iff_ne.mpr hc.symm
      unfold dropUnderscores?
      rw [hother, if_neg Bool.false_ne_true, ih hcs]
      rfl

variable {num : Numeral} {rest : List Char}

/-- After the digits of a numeral there is its power of ten, or what follows it. -/
theorem head?_exponentText (hrest : EndsNumeral rest) :
    ∀ c ∈ (num.exponentText ++ rest).head?, isAsciiDigit c = false ∧ c ≠ '.' := by
  intro c hc
  unfold Numeral.exponentText at hc
  cases hexponent : num.exponent with
  | none =>
      rw [hexponent] at hc
      obtain ⟨hdigit, hpoint, _⟩ := hrest c hc
      exact ⟨hdigit, hpoint⟩
  | some e =>
      rw [hexponent] at hc
      obtain rfl : (if e.isCapital then 'E' else 'e') = c := Option.some.inj hc
      split <;> decide

/-- After the digits before the point there is the point, or what is left of the numeral. -/
theorem head?_fractionText (hrest : EndsNumeral rest) :
    ∀ c ∈ (num.fractionText ++ (num.exponentText ++ rest)).head?, isAsciiDigit c = false := by
  intro c hc
  unfold Numeral.fractionText at hc
  split at hc
  · exact (head?_exponentText hrest c hc).1
  · obtain rfl : '.' = c := Option.some.inj hc
    decide

theorem not_sign {c : Char} (h : isAsciiDigit c = true) : c ≠ '-' ∧ c ≠ '+' :=
  ⟨ne_of_isAsciiDigit h (by decide), ne_of_isAsciiDigit h (by decide)⟩

theorem takeSign_signText (sign : Option Bool) {digits : List Char} (h : AreDigits digits)
    (hne : digits ≠ []) : takeSign (signText sign ++ digits) = (sign == some true, digits) := by
  obtain ⟨c, cs, rfl⟩ := List.exists_cons_of_ne_nil hne
  match sign with
  | some true => rfl
  | some false => rfl
  | none =>
      obtain ⟨hminus, hplus⟩ := not_sign (h c List.mem_cons_self)
      simp [signText, takeSign, hminus, hplus]

theorem signLength_signText (sign : Option Bool) {digits : List Char} (h : AreDigits digits)
    (hne : digits ≠ []) (rest : List Char) :
    signLength (signText sign ++ (digits ++ rest)) = (signText sign).length := by
  obtain ⟨c, cs, rfl⟩ := List.exists_cons_of_ne_nil hne
  match sign with
  | some true => rfl
  | some false => rfl
  | none =>
      obtain ⟨hminus, hplus⟩ := not_sign (h c List.mem_cons_self)
      simp [signText, signLength, hminus, hplus]

namespace Numeral.IsValid

/-- A numeral begins with a digit, after its sign. -/
theorem exists_whole_eq (h : num.IsValid) :
    ∃ c cs, num.whole = c :: cs ∧ isAsciiDigit c = true := by
  obtain ⟨c, cs, hwhole⟩ := List.exists_cons_of_ne_nil h.whole_ne_nil
  exact ⟨c, cs, hwhole, h.whole c (hwhole ▸ List.mem_cons_self)⟩

/-! ## Reading the parts -/

theorem signed_text (h : num.IsValid) (rest : List Char) :
    signed (num.text ++ rest) = (num.negative, num.body ++ rest) := by
  obtain ⟨c, cs, hwhole, hc⟩ := h.exists_whole_eq
  unfold text
  cases hsign : num.negative with
  | true => rfl
  | false =>
      have hminus : c ≠ '-' := (not_sign hc).1
      unfold body
      rw [hwhole]
      simp [signed, hminus]

theorem takeSign_text (h : num.IsValid) : takeSign num.text = (num.negative, num.body) := by
  obtain ⟨c, cs, hwhole, hc⟩ := h.exists_whole_eq
  obtain ⟨hminus, hplus⟩ := not_sign hc
  unfold text
  cases hsign : num.negative with
  | true => rfl
  | false =>
      unfold body
      rw [hwhole]
      simp [takeSign, hminus, hplus]

theorem takeWhile_body (h : num.IsValid) (hrest : EndsNumeral rest) :
    (num.body ++ rest).takeWhile isAsciiDigit = num.whole := by
  unfold body
  rw [List.append_assoc, List.append_assoc]
  exact takeWhile_digits h.whole (head?_fractionText hrest)

theorem wholePart_body (h : num.IsValid) (hrest : EndsNumeral rest) :
    wholePart (num.body ++ rest) = num.whole := by
  obtain ⟨c, cs, hwhole, hc⟩ := h.exists_whole_eq
  have htake := h.takeWhile_body hrest
  by_cases hzero : c = '0'
  · -- After a zero nothing more is taken, and no digit may come.
    subst hzero
    obtain rfl := h.zero_alone cs hwhole
    unfold body
    rw [hwhole]
    rfl
  · rw [← htake]
    unfold body
    rw [hwhole]
    simp [wholePart, hzero]

theorem fractionLength_eq (h : num.IsValid) (hrest : EndsNumeral rest) :
    fractionLength (num.fractionText ++ (num.exponentText ++ rest)) = num.fractionText.length := by
  by_cases hnil : num.fraction = []
  · have htext : num.fractionText = [] := if_pos hnil
    have hhead := @head?_exponentText num rest hrest
    rw [htext, List.nil_append]
    generalize num.exponentText ++ rest = tail at hhead
    cases tail with
    | nil => rfl
    | cons c tail =>
        have hpoint : c ≠ '.' := (hhead c rfl).2
        simp [fractionLength, hpoint]
  · have htext : num.fractionText = '.' :: num.fraction := if_neg hnil
    have htake := takeWhile_digits h.fraction fun c hc =>
      (@head?_exponentText num rest hrest c hc).1
    rw [htext, List.cons_append]
    unfold fractionLength
    simp only [htake, List.isEmpty_iff, hnil, if_false, List.length_cons]

theorem exponentLength_eq (h : num.IsValid) (hrest : EndsNumeral rest) :
    exponentLength (num.exponentText ++ rest) = num.exponentText.length := by
  have hexponent := h.exponent
  unfold exponentText
  cases hsome : num.exponent with
  | none =>
      show exponentLength rest = 0
      cases rest with
      | nil => rfl
      | cons c rest =>
          obtain ⟨-, -, hsmall, hcapital⟩ := hrest c rfl
          rw [exponentLength_cons, if_neg (by simp [hsmall, hcapital])]
  | some e =>
      obtain ⟨hdigits, hne⟩ := hexponent e (hsome ▸ rfl)
      have htake := takeWhile_digits hdigits fun c hc => (hrest c hc).1
      show exponentLength (e.text ++ rest) = e.text.length
      unfold Exponent.text
      rw [List.cons_append, exponentLength_cons, if_pos e.isMark, List.append_assoc,
        signLength_signText e.sign hdigits hne, List.drop_left, htake, if_neg (by simpa using hne),
        List.length_cons, List.length_append]
      omega

/-! ## Reading a numeral as a double -/

/-- What a numeral is written with. -/
theorem mem_text (h : num.IsValid) {c : Char} (hc : c ∈ num.text) :
    isAsciiDigit c = true ∨ c ∈ ['-', '+', '.', 'e', 'E'] := by
  have hbody : ∀ c ∈ num.body, isAsciiDigit c = true ∨ c ∈ ['-', '+', '.', 'e', 'E'] := by
    intro c hc
    unfold body at hc
    -- the parts of the body in their order: whole digits, fraction, exponent
    rcases List.mem_append.mp hc with hwhole | hc
    · exact .inl (h.whole c hwhole)
    rcases List.mem_append.mp hc with hfraction | hexponent
    · unfold fractionText at hfraction
      split at hfraction
      · cases hfraction
      · rcases List.mem_cons.mp hfraction with rfl | hfraction
        · exact .inr (by decide)
        · exact .inl (h.fraction c hfraction)
    · unfold exponentText at hexponent
      cases hsome : num.exponent with
      | none =>
          rw [hsome] at hexponent
          cases hexponent
      | some e =>
          rw [hsome] at hexponent
          rcases List.mem_cons.mp (hexponent : c ∈ e.text) with rfl | hexponent
          · exact .inr (by cases e.isCapital <;> decide)
          rcases List.mem_append.mp hexponent with hsign | hdigits
          · right
            match hmark : e.sign with
            | none => rw [hmark] at hsign; cases hsign
            | some true => rw [hmark] at hsign; rw [List.mem_singleton.mp hsign]; decide
            | some false => rw [hmark] at hsign; rw [List.mem_singleton.mp hsign]; decide
          · exact .inl ((h.exponent e hsome).1 c hdigits)
  unfold text at hc
  split at hc
  · rcases List.mem_cons.mp hc with rfl | hc
    · exact .inr (by decide)
    · exact hbody c hc
  · exact hbody c hc

theorem readExponent?_text (h : num.IsValid) :
    readExponent? num.exponentText = some num.exponentValue := by
  have hexponent := h.exponent
  unfold exponentText exponentValue
  cases hsome : num.exponent with
  | none => rfl
  | some e =>
      obtain ⟨hdigits, hne⟩ := hexponent e (hsome ▸ rfl)
      show readExponent? e.text = some e.value
      unfold Exponent.text readExponent? Exponent.value
      dsimp only
      rw [if_pos e.isMark, takeSign_signText e.sign hdigits hne]
      dsimp only
      rw [if_neg (by simp [hne, areDigits_iff.mp hdigits])]
      simp only [beq_iff_eq]

theorem readUnsigned?_body (h : num.IsValid) :
    readUnsigned? num.negative num.body =
      some (ofDecimal num.negative (digitsValue (num.whole ++ num.fraction))
        (num.exponentValue - num.fraction.length)) := by
  -- no digit and no point comes after the fraction
  have hfollows := @head?_exponentText num [] endsNumeral_nil
  have hfraction := @head?_fractionText num [] endsNumeral_nil
  rw [List.append_nil] at hfollows hfraction
  have htake : num.body.takeWhile isAsciiDigit = num.whole := takeWhile_digits h.whole hfraction
  have hdrop : num.body.dropWhile isAsciiDigit = num.fractionText ++ num.exponentText :=
    dropWhile_digits h.whole hfraction
  unfold readUnsigned?
  rw [htake, hdrop]
  split
  next fraction rest hparts =>
  -- the fraction is read to its end, whether it is written or not
  obtain ⟨rfl, rfl⟩ : fraction = num.fraction ∧ rest = num.exponentText := by
    by_cases hnil : num.fraction = []
    · have htext : num.fractionText = [] := if_pos hnil
      rw [htext, List.nil_append] at hparts
      split at hparts
      · next more hmore =>
          rw [hmore] at hfollows
          exact absurd rfl (hfollows '.' rfl).2
      · cases hparts
        exact ⟨hnil.symm, rfl⟩
    · have htext : num.fractionText = '.' :: num.fraction := if_neg hnil
      have hnone : ∀ c ∈ num.exponentText.head?, isAsciiDigit c = false :=
        fun c hc => (hfollows c hc).1
      rw [htext, List.cons_append] at hparts
      obtain ⟨hfound, hleft⟩ := Prod.mk.inj hparts
      rw [takeWhile_digits h.fraction hnone] at hfound
      rw [dropWhile_digits h.fraction hnone] at hleft
      exact ⟨hfound.symm, hleft.symm⟩
  rw [if_neg (by simp [h.whole_ne_nil]), h.readExponent?_text]
  rfl

/-- A numeral is no name of infinity, as it begins with a digit. -/
theorem name_ne (h : num.IsValid) {name : String}
    (hname : name.toList.head?.all (!isAsciiDigit ·)) :
    (String.ofList (num.body.map Char.toLower) == name) = false := by
  obtain ⟨c, cs, hwhole, hc⟩ := h.exists_whole_eq
  have hlower : c.toLower = c := by
    have hbounds := isAsciiDigit_iff.mp hc
    have hcapital : ¬ (c.val ≥ 'A'.val ∧ c.val ≤ 'Z'.val) := by
      intro h
      have : 65 ≤ c.toNat := h.1
      omega
    unfold Char.toLower
    exact dif_neg hcapital
  rw [beq_eq_false_iff_ne]
  rintro rfl
  rw [String.toList_ofList] at hname
  unfold body at hname
  rw [hwhole] at hname
  simp [hlower, hc] at hname

/-- **A numeral is read as the double that is nearest to it.** -/
theorem readFloat?_text (h : num.IsValid) :
    readFloat? (String.ofList num.text) =
      some (ofDecimal num.negative (digitsValue (num.whole ++ num.fraction))
        (num.exponentValue - num.fraction.length)) := by
  have hblank : ∀ c ∈ num.text, isNumberBlank c = false := by
    intro c hc
    rcases h.mem_text hc with hdigit | hmark
    · unfold isNumberBlank
      rw [isBlank_of_isAsciiDigit hdigit]
      rfl
    · have hall : ['-', '+', '.', 'e', 'E'].all (!isNumberBlank ·) = true := by decide
      simpa using List.all_eq_true.mp hall c hmark
  have hplain : plainDigits num.text = num.text := by
    unfold plainDigits
    refine (List.map_congr_left fun c hc => ?_).trans (List.map_id _)
    rcases h.mem_text hc with hdigit | hmark
    · have hbounds := isAsciiDigit_iff.mp hdigit
      rw [digitValue?_of_isAsciiDigit hdigit]
      dsimp only
      rw [Nat.add_sub_cancel' hbounds.1, Char.ofNat_toNat]
      rfl
    · have hall : ['-', '+', '.', 'e', 'E'].all (fun d => (digitValue? d).isNone) = true := by rfl
      rw [Option.isNone_iff_eq_none.mp (List.all_eq_true.mp hall c hmark)]
      rfl
  have hunderscore : '_' ∉ num.text := by
    intro hmem
    rcases h.mem_text hmem with hdigit | hmark
    · cases hdigit
    · revert hmark
      decide
  unfold readFloat?
  rw [String.toList_ofList, stripBy_eq_self hblank, hplain, dropUnderscores?_of_notMem hunderscore,
    Option.bind_some]
  unfold readPlainFloat?
  rw [h.takeSign_text]
  dsimp only
  -- The names of infinity and of what is no number are tried before the digits.
  rw [h.name_ne (by decide), h.name_ne (by decide), h.name_ne (by decide)]
  exact h.readUnsigned?_body

/-! ## Reading a numeral -/

theorem isPlain_iff (num : Numeral) :
    num.isPlain = true ↔ num.fractionText.length + num.exponentText.length = 0 := by
  unfold isPlain fractionText exponentText
  cases num.fraction with
  | nil => cases num.exponent <;> simp [Exponent.text]
  | cons c cs => simp

/-- **A plain numeral is read as a whole number, and any other one as a double**; nothing of what
follows is read. -/
theorem number?_text (h : num.IsValid) (hrest : EndsNumeral rest) (limited : Bool) :
    number? limited (num.text ++ rest) =
      if num.isPlain then
        if limited && num.whole.length > digitLimit then none
        else some (.int (if num.negative then -(digitsValue num.whole : Int)
          else digitsValue num.whole), rest)
      else some (.float (ofDecimal num.negative (digitsValue (num.whole ++ num.fraction))
        (num.exponentValue - num.fraction.length)), rest) := by
  have hdrop : (num.body ++ rest).drop num.whole.length =
      num.fractionText ++ (num.exponentText ++ rest) := by
    unfold body
    rw [List.append_assoc, List.append_assoc, List.drop_left]
  have hfraction := h.fractionLength_eq hrest
  have hexponent := h.exponentLength_eq hrest
  -- the reader measures the numeral first, and then reads as many characters
  have hlength : numberLength num.negative num.whole
      (num.fractionText ++ (num.exponentText ++ rest)) = num.text.length := by
    unfold numberLength
    rw [hfraction, List.drop_left, hexponent]
    unfold text body
    split <;> simp only [List.length_cons, List.length_append] <;> omega
  have hplain := isPlain_iff num
  rw [number?_eq, h.signed_text]
  dsimp only
  rw [h.wholePart_body hrest, hdrop, hlength, hfraction, List.drop_left, hexponent,
    if_neg (by simp [h.whole_ne_nil]), List.take_left, List.drop_left, h.readFloat?_text]
  -- a numeral without fraction and exponent is a whole number
  by_cases hkind : num.isPlain = true
  · have hnone := hplain.mp hkind
    have hfractionText : num.fractionText = [] := List.length_eq_zero_iff.mp (by omega)
    have hexponentText : num.exponentText = [] := List.length_eq_zero_iff.mp (by omega)
    rw [if_pos hnone, if_pos hkind, hfractionText, hexponentText]
    rfl
  · rw [if_neg (mt hplain.mpr hkind), if_neg hkind]
    rfl

/-- A text that begins with a digit, or with one after a minus sign, is no word. -/
theorem anyWord?_text (h : num.IsValid) (rest : List Char) :
    anyWord? words (num.text ++ rest) = none := by
  obtain ⟨c, cs, hwhole, hc⟩ := h.exists_whole_eq
  have hletters : ∀ d ∈ ['n', 't', 'f', 'N', 'I', '-'], d ≠ c := by
    intro d hd
    have hall : ['n', 't', 'f', 'N', 'I', '-'].all (!isAsciiDigit ·) = true := by decide
    exact (ne_of_isAsciiDigit hc (by simpa using List.all_eq_true.mp hall d hd)).symm
  simp only [List.mem_cons, List.not_mem_nil, or_false, forall_eq_or_imp, forall_eq] at hletters
  unfold anyWord? text body
  rw [hwhole]
  cases num.negative <;> simp [words, dropStart?, hletters]

/-- The digits of a number without zeros before it are no more than it has. -/
theorem length_whole_le (h : num.IsValid) {k : Nat} (hk : 0 < k)
    (hvalue : digitsValue num.whole < 10 ^ k) : num.whole.length ≤ k := by
  obtain ⟨c, cs, hwhole, hc⟩ := h.exists_whole_eq
  by_cases hzero : c = '0'
  · obtain rfl := h.zero_alone cs (hzero ▸ hwhole)
    rw [hwhole]
    exact hk
  · rw [hwhole] at hvalue ⊢
    exact (Nat.pow_lt_pow_iff_right (by decide)).mp
      (Nat.lt_of_le_of_lt (pow_le_digitsValue hc hzero) hvalue)

/-- **What is read of a numeral is worth what it says.** -/
theorem number?_of_value (h : num.IsValid) (hrest : EndsNumeral rest) {n : Nat} (hn : n < 10 ^ 15)
    (hvalue : num.value = n) (limited : Bool) :
    ∃ number : Number, number? limited (num.text ++ rest) = some (.ofNumber number, rest) ∧
      number.fraction? = some (n : Rat) ∧ ((∃ m, number = .whole m) ↔ num.isPlain = true) := by
  rw [h.number?_text hrest]
  by_cases hkind : num.isPlain = true
  · obtain ⟨hfraction, hexponent⟩ : num.fraction = [] ∧ num.exponent = none := by
      simpa [isPlain] using hkind
    have hworth : (if num.negative then -(digitsValue num.whole : Int)
        else digitsValue num.whole) = n := by
      have hsigned : (if num.negative then -1 else 1 : Rat) * digitsValue num.whole = n := by
        simpa [value, decimalValue, exponentValue, hfraction, hexponent] using hvalue
      split at hsigned
      · rw [neg_one_mul] at hsigned
        rw [if_pos ‹_›]
        exact_mod_cast hsigned
      · rw [one_mul] at hsigned
        rw [if_neg ‹_›]
        exact_mod_cast hsigned
    -- With no zeros before it, the number has fifteen digits at most, far from the limit.
    have hlength : ¬ (limited && decide (num.whole.length > digitLimit)) = true := by
      have hdigits : digitsValue num.whole < 10 ^ 15 := by
        split at hworth <;> omega
      have := h.length_whole_le (by decide) hdigits
      unfold digitLimit
      simp
      omega
    rw [if_pos hkind, if_neg hlength, hworth]
    exact ⟨.whole n, rfl, by simp [Number.fraction?], by simp [hkind]⟩
  · rw [if_neg hkind]
    exact ⟨.real _, rfl, fraction?_ofDecimal hn hvalue, by simp [hkind]⟩

theorem exists_text_eq (h : num.IsValid) :
    ∃ c cs, num.text = c :: cs ∧ (isAsciiDigit c = true ∨ c = '-') := by
  obtain ⟨c, cs, hwhole, hc⟩ := h.exists_whole_eq
  unfold text
  cases num.negative with
  | true => exact ⟨'-', num.body, rfl, .inr rfl⟩
  | false => exact ⟨c, _, by unfold body; rw [hwhole]; rfl, .inl hc⟩

/-- **Where a value may be, a numeral is read as a number that is worth what it says.** -/
theorem value?_text (h : num.IsValid) (hrest : EndsNumeral rest) {n : Nat} (hn : n < 10 ^ 15)
    (hvalue : num.value = n) (limited : Bool) (steps : Nat) :
    ∃ number : Number,
      value? limited (steps + 1) (num.text ++ rest) = some (.ofNumber number, rest) ∧
      number.fraction? = some (n : Rat) ∧ ((∃ m, number = .whole m) ↔ num.isPlain = true) := by
  obtain ⟨c, cs, htext, hc⟩ := h.exists_text_eq
  have hopens : c ≠ '"' ∧ c ≠ '[' ∧ c ≠ '\x7b' := by
    rcases hc with hdigit | rfl
    · exact ⟨ne_of_isAsciiDigit hdigit (by decide), ne_of_isAsciiDigit hdigit (by decide),
        ne_of_isAsciiDigit hdigit (by decide)⟩
    · decide
  have hword : value? limited (steps + 1) (num.text ++ rest) =
      number? limited (num.text ++ rest) := by
    rw [value?_word limited steps, word?_eq, h.anyWord?_text, Option.none_or]
    rintro d hd
    rw [htext] at hd
    cases hd
    exact hopens
  rw [hword]
  exact h.number?_of_value hrest hn hvalue limited

/-- A document that is a numeral is the number that it is worth. -/
theorem read_text (h : num.IsValid) {n : Nat} (hn : n < 10 ^ 15) (hvalue : num.value = n)
    (limited : Bool) :
    ∃ number : Number, Json.read limited num.text = some (.ofNumber number) ∧
      number.fraction? = some (n : Rat) ∧ ((∃ m, number = .whole m) ↔ num.isPlain = true) := by
  obtain ⟨number, hread, hworth, hkind⟩ :=
    h.value?_text endsNumeral_nil hn hvalue limited (2 * num.text.length + 1)
  obtain ⟨c, cs, htext, hc⟩ := h.exists_text_eq
  have hblank : isBlank c = false := by
    rcases hc with hdigit | rfl
    · rw [Bool.eq_false_iff]
      intro hblank
      rw [isAsciiDigit_of_isBlank c hblank] at hdigit
      cases hdigit
    · rfl
  have hskip : skip num.text = num.text := by
    rw [htext]
    exact List.dropWhile_cons_of_neg (by simp [hblank])
  rw [List.append_nil] at hread
  refine ⟨number, ?_, hworth, hkind⟩
  unfold Json.read
  rw [hskip, hread]
  rfl

end Numeral.IsValid

end ReleaseSearch.Json
