import Mathlib.Data.List.Infix
import Mathlib.Data.List.TakeWhile
import Mathlib.Tactic.SplitIfs
import ReleaseSearch.Data.Json

/-!
# Strings, numbers and words of JSON

The readers of the format take a value from the start of a text and answer the rest.  Here they are
the readers of the values without parts.  What is shown of each is that the rest is an end of the
text, and that blanks after the text are left over:

    read (cs ++ blanks) = (read cs).leaving blanks

so that no reader looks at blanks to decide what came before them.
-/

namespace ReleaseSearch.Json

open Text Decimal

variable {β : Type}

/-! ## Blanks -/

def AreBlank (cs : List Char) : Prop := ∀ c ∈ cs, isBlank c = true

theorem isBlank_cases {c : Char} (h : isBlank c = true) :
    c = ' ' ∨ c = '\t' ∨ c = '\n' ∨ c = '\r' := by
  simpa [isBlank, or_assoc] using h

/-- What was read, with more text left over. -/
def leaving (tail : List Char) (found : Option (β × List Char)) : Option (β × List Char) :=
  found.map fun found => (found.1, found.2 ++ tail)

/-- The rest is an end of the text. -/
def EndsIn (cs : List Char) (found : Option (β × List Char)) : Prop :=
  ∀ b rest, found = some (b, rest) → rest <:+ cs

variable {tail : List Char}

theorem takeWhile_append_blank {p : Char → Bool} (hp : ∀ c, isBlank c = true → p c = false)
    (htail : AreBlank tail) (cs : List Char) : (cs ++ tail).takeWhile p = cs.takeWhile p := by
  have hnone : tail.takeWhile p = [] := by
    cases tail with
    | nil => rfl
    | cons c tail => rw [List.takeWhile_cons, hp c (htail c List.mem_cons_self)]; rfl
  rw [List.takeWhile_append]
  split
  · next hall =>
      rw [hnone, List.append_nil]
      exact ((List.takeWhile_prefix p).eq_of_length hall).symm
  · rfl

/-! ## Strings -/

theorem hexValue?_of_isBlank {c : Char} (h : isBlank c = true) : hexValue? c = none := by
  rcases isBlank_cases h with rfl | rfl | rfl | rfl <;> rfl

theorem unit?_eq_some {cs : List Char} {n : Nat} {rest : List Char}
    (h : unit? cs = some (n, rest)) :
    ∃ digits, cs = digits ++ rest ∧ digits.length = 4 ∧
      ∀ c ∈ digits, (hexValue? c).isSome = true := by
  unfold unit? at h
  split at h
  · next a b c d more =>
      simp only [Option.bind_eq_bind, Option.bind_eq_some_iff, pure, Option.some.injEq] at h
      obtain ⟨w, hw, x, hx, y, hy, z, hz, hrest⟩ := h
      cases hrest
      exact ⟨[a, b, c, d], rfl, rfl, by simp [hw, hx, hy, hz]⟩
  · cases h

/-- A blank comes too early. -/
theorem unit?_of_short {cs : List Char} {c : Char} (hc : isBlank c = true) (hshort : cs.length < 4)
    (rest : List Char) : unit? (cs ++ c :: rest) = none := by
  rw [Option.eq_none_iff_forall_ne_some]
  rintro ⟨n, left⟩ h
  obtain ⟨digits, hcs, hlength, hhex⟩ := unit?_eq_some h
  have hmem : c ∈ digits := by
    have hdigits : digits = (cs ++ c :: rest).take 4 := by
      rw [hcs, ← hlength, List.take_left]
    obtain ⟨k, hk⟩ : ∃ k, 4 - cs.length = k + 1 := ⟨3 - cs.length, by omega⟩
    rw [hdigits, List.take_append, hk, List.take_succ_cons]
    simp
  have hsome := hhex c hmem
  rw [hexValue?_of_isBlank hc] at hsome
  cases hsome

theorem unit?_append (htail : AreBlank tail) (cs : List Char) :
    unit? (cs ++ tail) = leaving tail (unit? cs) := by
  match cs with
  | a :: b :: c :: d :: rest =>
      simp only [unit?, List.cons_append]
      cases hexValue? a <;> cases hexValue? b <;> cases hexValue? c <;> cases hexValue? d <;> rfl
  | [] | [_] | [_, _] | [_, _, _] =>
      cases tail with
      | nil => rfl
      | cons t tail =>
          rw [unit?_of_short (htail t List.mem_cons_self) (by simp)]
          rfl

/-- The character that a first half of a pair makes with what follows it. -/
def paired? (n : Nat) (rest : List Char) : Option (Char × List Char) :=
  match rest with
  | '\\' :: 'u' :: more =>
    (unit? more).bind fun found =>
      if 0xdc00 ≤ found.1 ∧ found.1 < 0xe000 then
        some (Char.ofNat (0x10000 + (n - 0xd800) * 1024 + (found.1 - 0xdc00)), found.2)
      else some ('\ufffd', rest)
  | _ => some ('\ufffd', rest)

theorem paired?_of_ne {n : Nat} {rest : List Char} (h : ∀ more, rest ≠ '\\' :: 'u' :: more) :
    paired? n rest = some ('\ufffd', rest) := by
  unfold paired?
  split
  · next more => exact absurd rfl (h more)
  · rfl

theorem paired?_pair (n : Nat) (more : List Char) :
    paired? n ('\\' :: 'u' :: more) = (unit? more).bind fun found =>
      if 0xdc00 ≤ found.1 ∧ found.1 < 0xe000 then
        some (Char.ofNat (0x10000 + (n - 0xd800) * 1024 + (found.1 - 0xdc00)), found.2)
      else some ('\ufffd', '\\' :: 'u' :: more) := rfl

theorem escaped?_eq (cs : List Char) :
    escaped? cs = (unit? cs).bind fun found =>
      if 0xd800 ≤ found.1 ∧ found.1 < 0xdc00 then paired? found.1 found.2
      else if found.1.isValidChar then some (Char.ofNat found.1, found.2)
      else some ('\ufffd', found.2) := by
  unfold escaped?
  cases unit? cs with
  | none => rfl
  | some found =>
      obtain ⟨n, rest⟩ := found
      simp only [Option.bind_eq_bind, Option.bind_some]
      refine if_congr Iff.rfl ?_ rfl
      split
      · next more =>
          rw [paired?_pair]
          cases unit? more with
          | none => rfl
          | some found => rfl
      · next hrest =>
          rw [paired?_of_ne hrest]
          rfl

theorem paired?_append (htail : AreBlank tail) (n : Nat) (rest : List Char) :
    paired? n (rest ++ tail) = leaving tail (paired? n rest) := by
  by_cases hpair : ∃ more, rest = '\\' :: 'u' :: more
  · obtain ⟨more, rfl⟩ := hpair
    simp only [List.cons_append, paired?_pair, unit?_append htail]
    cases unit? more with
    | none => rfl
    | some found =>
        simp only [leaving, Option.map_some, Option.bind_some, apply_ite (Option.map _),
          List.cons_append]
  · have hrest : ∀ more, rest ≠ '\\' :: 'u' :: more := fun more h => hpair ⟨more, h⟩
    rw [paired?_of_ne hrest, paired?_of_ne]
    · rfl
    · -- A blank is neither a backslash nor a letter.
      intro more h
      match rest with
      | c :: d :: rest =>
          rw [List.cons_append, List.cons_append, List.cons.injEq, List.cons.injEq] at h
          exact hrest rest (by rw [h.1, h.2.1])
      | [] =>
          have := htail '\\' (by rw [List.nil_append] at h; rw [h]; simp)
          cases this
      | [c] =>
          have := htail 'u' (by rw [List.singleton_append, List.cons.injEq] at h; rw [h.2]; simp)
          cases this

theorem escaped?_append (htail : AreBlank tail) (cs : List Char) :
    escaped? (cs ++ tail) = leaving tail (escaped? cs) := by
  rw [escaped?_eq, escaped?_eq, unit?_append htail]
  cases unit? cs with
  | none => rfl
  | some found =>
      simp only [leaving, Option.map_some, Option.bind_some, apply_ite (Option.map _)]
      exact if_congr Iff.rfl (paired?_append htail _ _) rfl

theorem unit?_endsIn (cs : List Char) : EndsIn cs (unit? cs) := by
  intro n rest h
  obtain ⟨digits, hcs, _⟩ := unit?_eq_some h
  exact ⟨digits, hcs.symm⟩

theorem paired?_endsIn (n : Nat) (cs : List Char) : EndsIn cs (paired? n cs) := by
  intro c rest h
  unfold paired? at h
  split at h
  · next more =>
      obtain ⟨found, hfound, h⟩ := Option.bind_eq_some_iff.mp h
      by_cases hlow : 0xdc00 ≤ found.1 ∧ found.1 < 0xe000
      · rw [if_pos hlow] at h
        obtain ⟨_, rfl⟩ := Prod.mk.inj (Option.some.inj h)
        exact ((unit?_endsIn more _ _ hfound).trans (List.suffix_cons _ _)).trans
          (List.suffix_cons _ _)
      · rw [if_neg hlow] at h
        obtain ⟨_, rfl⟩ := Prod.mk.inj (Option.some.inj h)
        exact List.suffix_rfl
  · cases h
    exact List.suffix_rfl

theorem escaped?_endsIn (cs : List Char) : EndsIn cs (escaped? cs) := by
  intro c rest h
  rw [escaped?_eq] at h
  obtain ⟨found, hfound, h⟩ := Option.bind_eq_some_iff.mp h
  have hunit := unit?_endsIn cs _ _ hfound
  split at h
  · exact (paired?_endsIn _ _ _ _ h).trans hunit
  · split at h
    · cases h
      exact hunit
    · cases h
      exact hunit

/-- The character that a backslash makes with what follows it. -/
def escape? (c : Char) (rest : List Char) : Option (Char × List Char) :=
  match c with
  | '"' | '\\' | '/' => some (c, rest)
  | 'b' => some ('\x08', rest)
  | 'f' => some ('\x0c', rest)
  | 'n' => some ('\n', rest)
  | 'r' => some ('\r', rest)
  | 't' => some ('\t', rest)
  | 'u' => escaped? rest
  | _ => none

def piece? : List Char → Option (Char × List Char)
  | [] => none
  | '\\' :: c :: rest => escape? c rest
  | c :: rest => if c.toNat < 32 || c == '\\' then none else some (c, rest)

theorem piece?_escape (c : Char) (rest : List Char) :
    piece? ('\\' :: c :: rest) = escape? c rest := rfl

/-- A string goes on by one character. -/
theorem string?_piece (n : Nat) (before : List Char) {cs : List Char} (h : cs.head? ≠ some '"') :
    string? (n + 1) before cs =
      (piece? cs).bind fun found => string? n (found.1 :: before) found.2 := by
  conv_lhs => unfold string?
  split
  · rfl
  · exact absurd rfl h
  -- an escape: both tell the same ones apart
  · rw [piece?_escape]
    unfold escape?
    split
    case h_10 => simp [*]
    all_goals rfl
  · next c rest _ hescape =>
      -- any other character stands for itself
      have hpiece : piece? (c :: rest) =
          if c.toNat < 32 || c == '\\' then none else some (c, rest) := by
        unfold piece?
        split
        · next heq => cases heq
        · next heq =>
            cases heq
            exact absurd rfl (hescape _ _ rfl)
        · next heq =>
            cases heq
            rfl
      rw [hpiece]
      split <;> rfl

theorem escape?_endsIn (c : Char) (cs : List Char) : EndsIn cs (escape? c cs) := by
  intro d rest h
  unfold escape? at h
  split at h
  case h_9 => exact escaped?_endsIn cs _ _ h
  case h_10 => cases h
  all_goals
    cases h
    exact List.suffix_rfl

theorem escape?_append (htail : AreBlank tail) (c : Char) (cs : List Char) :
    escape? c (cs ++ tail) = leaving tail (escape? c cs) := by
  unfold escape?
  split
  case h_9 => exact escaped?_append htail cs
  all_goals rfl

theorem escape?_of_isBlank {c : Char} (h : isBlank c = true) (cs : List Char) :
    escape? c cs = none := by
  rcases isBlank_cases h with rfl | rfl | rfl | rfl <;> rfl

theorem piece?_of_ne {c : Char} (h : c ≠ '\\') (rest : List Char) :
    piece? (c :: rest) = if c.toNat < 32 then none else some (c, rest) := by
  have hc : (c == '\\') = false := beq_eq_false_iff_ne.mpr h
  unfold piece?
  split
  · next heq => cases heq
  · next heq =>
      cases heq
      exact absurd rfl h
  · next heq =>
      cases heq
      simp only [hc, Bool.or_false, decide_eq_true_eq]

/-- A character takes up at least one place. -/
theorem piece?_endsIn (c : Char) (cs : List Char) : EndsIn cs (piece? (c :: cs)) := by
  intro d rest h
  by_cases hc : c = '\\'
  · subst hc
    cases cs with
    | nil => cases h
    | cons e cs => exact (escape?_endsIn e cs d rest h).trans (List.suffix_cons _ _)
  · rw [piece?_of_ne hc] at h
    split at h
    · cases h
    · cases h
      exact List.suffix_rfl

theorem piece?_append (htail : AreBlank tail) (c : Char) (cs : List Char) :
    piece? (c :: cs ++ tail) = leaving tail (piece? (c :: cs)) := by
  rw [List.cons_append]
  by_cases hc : c = '\\'
  · subst hc
    cases cs with
    | cons e cs => exact escape?_append htail e cs
    | nil =>
        cases tail with
        | nil => rfl
        | cons t tail => exact escape?_of_isBlank (htail t List.mem_cons_self) tail
  · rw [piece?_of_ne hc, piece?_of_ne hc]
    split <;> rfl

theorem string?_endsIn (n : Nat) (before cs : List Char) : EndsIn cs (string? n before cs) := by
  induction n generalizing before cs with
  | zero =>
      intro s rest h
      cases h
  | succ n ih =>
      intro s rest h
      cases cs with
      | nil => cases h
      | cons c cs =>
          by_cases hquote : c = '"'
          · subst hquote
            cases h
            exact List.suffix_cons _ _
          · rw [string?_piece n before (by simpa using hquote)] at h
            obtain ⟨found, hpiece, h⟩ := Option.bind_eq_some_iff.mp h
            exact ((ih _ _ _ _ h).trans (piece?_endsIn c cs _ _ hpiece)).trans
              (List.suffix_cons _ _)

/-- Steps beyond the length of the text make no difference. -/
theorem string?_steps {n m : Nat} (before : List Char) {cs : List Char} (hn : cs.length < n)
    (hm : cs.length < m) : string? n before cs = string? m before cs := by
  -- Every piece takes a character off, so there are steps enough on both sides.
  induction n generalizing m before cs with
  | zero => cases hn
  | succ n ih =>
      obtain ⟨m, rfl⟩ := Nat.exists_eq_succ_of_ne_zero (Nat.ne_zero_of_lt hm)
      cases cs with
      | nil => rfl
      | cons c cs =>
          by_cases hquote : c = '"'
          · subst hquote
            rfl
          · have hhead : (c :: cs).head? ≠ some '"' := by simpa using hquote
            rw [string?_piece n before hhead, string?_piece m before hhead]
            cases hpiece : piece? (c :: cs) with
            | none => rfl
            | some found =>
                have hlength := (piece?_endsIn c cs _ _ hpiece).length_le
                rw [List.length_cons] at hn hm
                exact ih _ (by omega) (by omega)

/-- Blanks do not close a string. -/
theorem string?_of_areBlank (n : Nat) (before : List Char) {cs : List Char} (h : AreBlank cs) :
    string? n before cs = none := by
  induction n generalizing before cs with
  | zero => rfl
  | succ n ih =>
      cases cs with
      | nil => rfl
      | cons c cs =>
          have hc : c ≠ '"' ∧ c ≠ '\\' := by
            rcases isBlank_cases (h c List.mem_cons_self) with rfl | rfl | rfl | rfl <;> decide
          rw [string?_piece n before (by simpa using hc.1), piece?_of_ne hc.2]
          split
          · rfl
          · exact ih _ fun d hd => h d (List.mem_cons_of_mem _ hd)

theorem string?_append (htail : AreBlank tail) (n : Nat) (before cs : List Char) :
    string? n before (cs ++ tail) = leaving tail (string? n before cs) := by
  induction n generalizing before cs with
  | zero => rfl
  | succ n ih =>
      cases cs with
      | nil => exact string?_of_areBlank (n + 1) before htail
      | cons c cs =>
          by_cases hquote : c = '"'
          · subst hquote
            rfl
          · rw [string?_piece n before (by simpa using hquote),
              string?_piece n before (by simpa using hquote), piece?_append htail]
            cases piece? (c :: cs) with
            | none => rfl
            | some found => exact ih _ _

/-! ## Numbers -/

theorem isAsciiDigit_of_isBlank (c : Char) (h : isBlank c = true) : isAsciiDigit c = false := by
  rcases isBlank_cases h with rfl | rfl | rfl | rfl <;> rfl

theorem takeWhile_digits_append (htail : AreBlank tail) (cs : List Char) :
    (cs ++ tail).takeWhile isAsciiDigit = cs.takeWhile isAsciiDigit :=
  takeWhile_append_blank isAsciiDigit_of_isBlank htail cs

theorem length_takeWhile_le (p : Char → Bool) (cs : List Char) :
    (cs.takeWhile p).length ≤ cs.length := (List.takeWhile_prefix p).length_le

/-- Whether a minus sign comes first, and what follows it. -/
def signed (cs : List Char) : Bool × List Char :=
  match cs with
  | '-' :: rest => (true, rest)
  | _ => (false, cs)

/-- The digits before a point: a zero stands alone. -/
def wholePart (body : List Char) : List Char :=
  match body with
  | '0' :: _ => ['0']
  | _ => body.takeWhile isAsciiDigit

/-- The length of a number whose whole part has been read. -/
def numberLength (negative : Bool) (whole rest : List Char) : Nat :=
  (if negative then 1 else 0) + whole.length + fractionLength rest
    + exponentLength (rest.drop (fractionLength rest))

theorem number?_eq (limited : Bool) (cs : List Char) :
    number? limited cs =
      let sign := signed cs
      let whole := wholePart sign.2
      let rest := sign.2.drop whole.length
      if whole.isEmpty then none
      else if fractionLength rest + exponentLength (rest.drop (fractionLength rest)) = 0 then
        if limited && whole.length > digitLimit then none
        else
          let n : Int := digitsValue whole
          some (.int (if sign.1 then -n else n), rest)
      else
        (readFloat? (String.ofList (cs.take (numberLength sign.1 whole rest)))).map fun x =>
          (.float x, cs.drop (numberLength sign.1 whole rest)) := rfl

theorem signed_append (htail : AreBlank tail) (cs : List Char) :
    signed (cs ++ tail) = ((signed cs).1, (signed cs).2 ++ tail) := by
  cases cs with
  | nil =>
      cases tail with
      | nil => rfl
      | cons t tail =>
          rcases isBlank_cases (htail t List.mem_cons_self) with rfl | rfl | rfl | rfl <;> rfl
  | cons c cs =>
      unfold signed
      by_cases hc : c = '-'
      · subst hc
        rfl
      · simp [hc]

theorem signed_endsIn (cs : List Char) : (signed cs).2 <:+ cs := by
  unfold signed
  split
  · exact List.suffix_cons _ _
  · exact List.suffix_rfl

theorem length_signed (cs : List Char) :
    (if (signed cs).1 then 1 else 0) + (signed cs).2.length = cs.length := by
  unfold signed
  split
  · simp [Nat.add_comm]
  · simp

theorem wholePart_append (htail : AreBlank tail) (cs : List Char) :
    wholePart (cs ++ tail) = wholePart cs := by
  cases cs with
  | nil =>
      cases tail with
      | nil => rfl
      | cons t tail =>
          rcases isBlank_cases (htail t List.mem_cons_self) with rfl | rfl | rfl | rfl <;> rfl
  | cons c cs =>
      unfold wholePart
      by_cases hc : c = '0'
      · subst hc
        rfl
      · simp [hc, ← takeWhile_digits_append htail (c :: cs)]

theorem length_wholePart_le (cs : List Char) : (wholePart cs).length ≤ cs.length := by
  unfold wholePart
  split
  · simp
  · exact length_takeWhile_le _ _

theorem fractionLength_append (htail : AreBlank tail) (cs : List Char) :
    fractionLength (cs ++ tail) = fractionLength cs := by
  cases cs with
  | nil =>
      cases tail with
      | nil => rfl
      | cons t tail =>
          rcases isBlank_cases (htail t List.mem_cons_self) with rfl | rfl | rfl | rfl <;> rfl
  | cons c cs =>
      unfold fractionLength
      by_cases hc : c = '.'
      · subst hc
        simp only [List.cons_append, takeWhile_digits_append htail]
      · simp [hc]

theorem fractionLength_le (cs : List Char) : fractionLength cs ≤ cs.length := by
  unfold fractionLength
  split
  · next rest =>
      have hle := length_takeWhile_le isAsciiDigit rest
      simp only
      split
      · exact Nat.zero_le _
      · rw [List.length_cons]
        omega
  · exact Nat.zero_le _

def signLength (cs : List Char) : Nat :=
  match cs with
  | s :: _ => if s == '+' || s == '-' then 1 else 0
  | [] => 0

theorem exponentLength_cons (e : Char) (rest : List Char) :
    exponentLength (e :: rest) =
      if e == 'e' || e == 'E' then
        if ((rest.drop (signLength rest)).takeWhile isAsciiDigit).isEmpty then 0
        else 1 + signLength rest + ((rest.drop (signLength rest)).takeWhile isAsciiDigit).length
      else 0 := rfl

theorem signLength_append (htail : AreBlank tail) (cs : List Char) :
    signLength (cs ++ tail) = signLength cs := by
  cases cs with
  | cons c cs => rfl
  | nil =>
      cases tail with
      | nil => rfl
      | cons t tail =>
          rcases isBlank_cases (htail t List.mem_cons_self) with rfl | rfl | rfl | rfl <;> rfl

theorem signLength_le (cs : List Char) : signLength cs ≤ cs.length := by
  cases cs with
  | nil => exact Nat.le_refl _
  | cons c cs =>
      unfold signLength
      rw [List.length_cons]
      simp only
      split <;> omega

theorem exponentLength_append (htail : AreBlank tail) (cs : List Char) :
    exponentLength (cs ++ tail) = exponentLength cs := by
  cases cs with
  | cons c cs =>
      rw [List.cons_append, exponentLength_cons, exponentLength_cons, signLength_append htail,
        List.drop_append_of_le_length (signLength_le cs), takeWhile_digits_append htail]
  | nil =>
      cases tail with
      | nil => rfl
      | cons t tail =>
          rcases isBlank_cases (htail t List.mem_cons_self) with rfl | rfl | rfl | rfl <;> rfl

theorem exponentLength_le (cs : List Char) : exponentLength cs ≤ cs.length := by
  cases cs with
  | nil => exact Nat.le_refl _
  | cons c cs =>
      have hsign := signLength_le cs
      have hdigits := length_takeWhile_le isAsciiDigit (cs.drop (signLength cs))
      rw [List.length_drop] at hdigits
      rw [exponentLength_cons, List.length_cons]
      split
      · split
        · exact Nat.zero_le _
        · omega
      · exact Nat.zero_le _

theorem numberLength_le (cs : List Char) :
    numberLength (signed cs).1 (wholePart (signed cs).2)
      ((signed cs).2.drop (wholePart (signed cs).2).length) ≤ cs.length := by
  have hsigned := length_signed cs
  have hwhole := length_wholePart_le (signed cs).2
  generalize hrest : (signed cs).2.drop (wholePart (signed cs).2).length = rest
  have hlength := congrArg List.length hrest
  have hfraction := fractionLength_le rest
  have hexponent := exponentLength_le (rest.drop (fractionLength rest))
  rw [List.length_drop] at hlength hexponent
  unfold numberLength
  omega

theorem number?_endsIn (limited : Bool) (cs : List Char) : EndsIn cs (number? limited cs) := by
  intro d rest h
  rw [number?_eq] at h
  simp only at h
  split at h
  · cases h
  · split at h
    · split at h
      · cases h
      · cases h
        exact (List.drop_suffix _ _).trans (signed_endsIn cs)
    · obtain ⟨x, _, h⟩ := Option.map_eq_some_iff.mp h
      cases h
      exact List.drop_suffix _ _

theorem number?_append (htail : AreBlank tail) (limited : Bool) (cs : List Char) :
    number? limited (cs ++ tail) = leaving tail (number? limited cs) := by
  have hlength := numberLength_le cs
  have hwhole := length_wholePart_le (signed cs).2
  rw [number?_eq, number?_eq, signed_append htail]
  simp only [wholePart_append htail, List.drop_append_of_le_length hwhole]
  generalize (signed cs).2.drop (wholePart (signed cs).2).length = rest at *
  have hfraction := fractionLength_le rest
  simp only [numberLength, fractionLength_append htail, List.drop_append_of_le_length hfraction,
    exponentLength_append htail] at *
  rw [List.take_append_of_le_length hlength, List.drop_append_of_le_length hlength]
  split
  · rfl
  · split
    · split <;> rfl
    · cases readFloat? _ <;> rfl

/-! ## Words -/

theorem dropStart?_endsIn {word cs rest : List Char} (h : dropStart? word cs = some rest) :
    rest <:+ cs := by
  induction word generalizing cs with
  | nil =>
      cases h
      exact List.suffix_rfl
  | cons p word ih =>
      cases cs with
      | nil => cases h
      | cons c cs =>
          unfold dropStart? at h
          split at h
          · exact (ih h).trans (List.suffix_cons _ _)
          · cases h

theorem dropStart?_append (htail : AreBlank tail) {word : List Char}
    (hword : ∀ c ∈ word, isBlank c = false) (cs : List Char) :
    dropStart? word (cs ++ tail) = (dropStart? word cs).map (· ++ tail) := by
  induction word generalizing cs with
  | nil => rfl
  | cons p word ih =>
      cases cs with
      | cons c cs =>
          unfold dropStart?
          simp only [List.cons_append]
          split
          · exact ih (fun c hc => hword c (List.mem_cons_of_mem _ hc)) cs
          · rfl
      | nil =>
          cases tail with
          | nil => rfl
          | cons t tail =>
              -- the word goes on, but only blanks follow
              have ht : p ≠ t := by
                rintro rfl
                have hp := hword p List.mem_cons_self
                rw [htail p List.mem_cons_self] at hp
                cases hp
              exact if_neg ht

/-- The words of the format, and what they stand for. -/
def words : List (String × Data) :=
  [("null", .null), ("true", .bool true), ("false", .bool false), ("NaN", .float notANumber),
    ("Infinity", .float infinity), ("-Infinity", .float (-infinity))]

/-- The first of some words that a text starts with. -/
def anyWord? (words : List (String × Data)) (cs : List Char) : Option (Data × List Char) :=
  words.findSome? fun w => (dropStart? w.1.toList cs).map fun rest => (w.2, rest)

theorem word?_eq (limited : Bool) (cs : List Char) :
    word? limited cs = (anyWord? words cs).or (number? limited cs) := by
  unfold word?
  dsimp only
  split
  · next found h =>
    have h : anyWord? words cs = some found := h
    rw [h, Option.some_or]
  · next h =>
    have h : anyWord? words cs = none := h
    rw [h, Option.none_or]

theorem anyWord?_endsIn (words : List (String × Data)) (cs : List Char) :
    EndsIn cs (anyWord? words cs) := by
  intro d rest h
  obtain ⟨w, _, hw⟩ := List.exists_of_findSome?_eq_some h
  obtain ⟨rest', hrest, heq⟩ := Option.map_eq_some_iff.mp hw
  cases heq
  exact dropStart?_endsIn hrest

theorem anyWord?_append (htail : AreBlank tail) {words : List (String × Data)}
    (hwords : ∀ w ∈ words, ∀ c ∈ w.1.toList, isBlank c = false) (cs : List Char) :
    anyWord? words (cs ++ tail) = leaving tail (anyWord? words cs) := by
  induction words with
  | nil => rfl
  | cons w words ih =>
      unfold anyWord?
      rw [List.findSome?_cons, List.findSome?_cons,
        dropStart?_append htail (hwords w List.mem_cons_self)]
      cases dropStart? w.1.toList cs with
      | some rest => rfl
      | none => exact ih fun w hw => hwords w (List.mem_cons_of_mem _ hw)

theorem word?_endsIn (limited : Bool) (cs : List Char) : EndsIn cs (word? limited cs) := by
  intro d rest h
  rw [word?_eq] at h
  rcases Option.or_eq_some_iff.mp h with h | ⟨_, h⟩
  · exact anyWord?_endsIn words cs d rest h
  · exact number?_endsIn limited cs d rest h

theorem word?_append (htail : AreBlank tail) (limited : Bool) (cs : List Char) :
    word? limited (cs ++ tail) = leaving tail (word? limited cs) := by
  have hall : words.all (fun w => w.1.toList.all (!isBlank ·)) = true := by decide
  have hwords : ∀ w ∈ words, ∀ c ∈ w.1.toList, isBlank c = false := by
    simpa only [List.all_eq_true, Bool.not_eq_true'] using hall
  rw [word?_eq, word?_eq, anyWord?_append htail hwords, number?_append htail]
  cases anyWord? words cs <;> rfl

end ReleaseSearch.Json
