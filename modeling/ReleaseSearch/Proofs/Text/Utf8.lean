import ReleaseSearch.Text.Utf8

/-!
# Reading what was written in UTF-8

Each character is read back from its bytes, whatever comes after them.  The main statements are that
every text is read back from its bytes, and that reading never replaces anything in bytes that are
well formed.
-/

namespace ReleaseSearch.Text.Utf8

/-! ## One character -/

/-- Nothing more is read of a character that is complete. -/
@[simp] theorem continuation_zero (lo hi acc used : Nat) (bs : List UInt8) :
    continuation 0 lo hi acc used bs = (some acc, used) := by
  cases bs with
  | nil => rfl
  | cons b bs => rfl

theorem continuation_succ {count lo hi acc used n : Nat} (hn : n < 256) (hlo : lo ≤ n)
    (hhi : n ≤ hi) (bs : List UInt8) :
    continuation (count + 1) lo hi acc used (UInt8.ofNat n :: bs) =
      continuation count 0x80 0xbf (acc * 64 + (n - 0x80)) (used + 1) bs := by
  have htoNat : (UInt8.ofNat n).toNat = n := by
    rw [UInt8.toNat_ofNat']
    omega
  rw [continuation]
  simp only [htoNat]
  rw [if_pos ⟨hlo, hhi⟩]

/-- A code point is no surrogate. -/
theorem toNat_valid (c : Char) : c.toNat < 0xd800 ∨ 0xe000 ≤ c.toNat ∧ c.toNat < 0x110000 := by
  rcases c.valid with h | h
  · exact .inl h
  · exact .inr ⟨by have := h.1; show 0xe000 ≤ c.val.toNat; omega, h.2⟩

/-- The first byte of a character of several bytes fixes its length. -/
theorem readChar_of_leadRange {n count lo hi : Nat} (hn : n < 256) (hlarge : 0x80 ≤ n)
    (hrange : leadRange n = some (count, lo, hi)) (rest : List UInt8) :
    readChar (UInt8.ofNat n) rest =
      (((continuation count lo hi
          (if count = 1 then n - 0xc0 else if count = 2 then n - 0xe0 else n - 0xf0) 0
            rest).1).map Char.ofNat,
        (continuation count lo hi
          (if count = 1 then n - 0xc0 else if count = 2 then n - 0xe0 else n - 0xf0) 0
            rest).2) := by
  have htoNat : (UInt8.ofNat n).toNat = n := by
    rw [UInt8.toNat_ofNat']
    omega
  unfold readChar
  simp only [htoNat, hrange]
  rw [if_neg (by omega)]
  split
  · next h => simp [h]
  · next h => simp [h]

theorem leadRange_pos {n count lo hi : Nat} (h : leadRange n = some (count, lo, hi)) :
    0 < count ∧ 0 < lo := by
  unfold leadRange at h
  grind

theorem leadRange_two {n : Nat} (hlo : 0xc2 ≤ n) (hhi : n ≤ 0xdf) :
    leadRange n = some (1, 0x80, 0xbf) := by
  unfold leadRange
  rw [if_pos ⟨hlo, hhi⟩]

/-- The second of three bytes is restricted, so that no shorter form and no surrogate is written. -/
theorem leadRange_three {n : Nat} (hlo : 0xe0 ≤ n) (hhi : n ≤ 0xef) :
    leadRange n =
      some (2, if n = 0xe0 then 0xa0 else 0x80, if n = 0xed then 0x9f else 0xbf) := by
  unfold leadRange
  split
  · omega
  · split
    · next h => subst h; rfl
    · split
      · next h => subst h; rfl
      · rw [if_pos ⟨by omega, hhi⟩]

/-- So is the second of four bytes. -/
theorem leadRange_four {n : Nat} (hlo : 0xf0 ≤ n) (hhi : n ≤ 0xf4) :
    leadRange n =
      some (3, if n = 0xf0 then 0x90 else 0x80, if n = 0xf4 then 0x8f else 0xbf) := by
  unfold leadRange
  split
  · omega
  · split
    · omega
    · split
      · omega
      · split
        · omega
        · split
          · next h => subst h; rfl
          · split
            · next h => subst h; rfl
            · rw [if_pos ⟨by omega, by omega⟩]

theorem readChar_one {n : Nat} (hn : n < 0x80) (rest : List UInt8) :
    readChar (UInt8.ofNat n) rest = (some (Char.ofNat n), 0) := by
  have htoNat : (UInt8.ofNat n).toNat = n := by
    rw [UInt8.toNat_ofNat']
    omega
  unfold readChar
  simp only [htoNat]
  rw [if_pos hn]

theorem readChar_two {n : Nat} (hlo : 0x80 ≤ n) (hhi : n < 0x800) (rest : List UInt8) :
    readChar (UInt8.ofNat (0xc0 + n / 64)) (UInt8.ofNat (0x80 + n % 64) :: rest) =
      (some (Char.ofNat n), 1) := by
  have hvalue : (0xc0 + n / 64 - 0xc0) * 64 + (0x80 + n % 64 - 0x80) = n := by omega
  rw [readChar_of_leadRange (by omega) (by omega) (leadRange_two (by omega) (by omega)),
    continuation_succ (by omega) (by omega) (by omega), continuation_zero]
  simp only [if_true, hvalue, Option.map_some]

theorem readChar_three {n : Nat} (hlo : 0x800 ≤ n) (hhi : n < 0x10000)
    (hvalid : n < 0xd800 ∨ 0xe000 ≤ n) (rest : List UInt8) :
    readChar (UInt8.ofNat (0xe0 + n / 4096))
        (UInt8.ofNat (0x80 + n / 64 % 64) :: UInt8.ofNat (0x80 + n % 64) :: rest) =
      (some (Char.ofNat n), 2) := by
  have hvalue : ((0xe0 + n / 4096 - 0xe0) * 64 + (0x80 + n / 64 % 64 - 0x80)) * 64 +
      (0x80 + n % 64 - 0x80) = n := by omega
  rw [readChar_of_leadRange (by omega) (by omega) (leadRange_three (by omega) (by omega)),
    continuation_succ (by omega) (by split <;> omega) (by split <;> omega),
    continuation_succ (by omega) (by omega) (by omega), continuation_zero]
  simp only [Nat.reduceEqDiff, if_false, if_true, hvalue, Option.map_some]

theorem readChar_four {n : Nat} (hlo : 0x10000 ≤ n) (hhi : n < 0x110000) (rest : List UInt8) :
    readChar (UInt8.ofNat (0xf0 + n / 262144))
        (UInt8.ofNat (0x80 + n / 4096 % 64) :: UInt8.ofNat (0x80 + n / 64 % 64) ::
          UInt8.ofNat (0x80 + n % 64) :: rest) =
      (some (Char.ofNat n), 3) := by
  have hvalue : (((0xf0 + n / 262144 - 0xf0) * 64 + (0x80 + n / 4096 % 64 - 0x80)) * 64 +
      (0x80 + n / 64 % 64 - 0x80)) * 64 + (0x80 + n % 64 - 0x80) = n := by omega
  rw [readChar_of_leadRange (by omega) (by omega) (leadRange_four (by omega) (by omega)),
    continuation_succ (by omega) (by split <;> omega) (by split <;> omega),
    continuation_succ (by omega) (by omega) (by omega),
    continuation_succ (by omega) (by omega) (by omega), continuation_zero]
  simp only [Nat.reduceEqDiff, if_false, hvalue, Option.map_some]

theorem encodeChar_ne_nil (c : Char) : encodeChar c ≠ [] := by
  unfold encodeChar
  dsimp only
  split
  · simp
  · split
    · simp
    · split <;> simp

/-- **A character is read from its bytes, and no more**; the cases are the numbers of bytes. -/
theorem readFrom_encodeChar (c : Char) (rest : List UInt8) :
    readFrom 0 (encodeChar c ++ rest) = some c :: readFrom 0 rest := by
  have hvalid := toNat_valid c
  have hback : Char.ofNat c.toNat = c := Char.ofNat_toNat c
  unfold encodeChar
  simp only
  -- as many cases as there are lengths
  generalize c.toNat = n at *
  split
  · simp only [List.cons_append, List.nil_append, readFrom]
    rw [readChar_one (by omega), hback]
  · split
    · simp only [List.cons_append, List.nil_append, readFrom]
      rw [readChar_two (by omega) (by omega), hback]
      rfl
    · split
      · simp only [List.cons_append, List.nil_append, readFrom]
        rw [readChar_three (by omega) (by omega) (by omega), hback]
        rfl
      · simp only [List.cons_append, List.nil_append, readFrom]
        rw [readChar_four (by omega) (by omega), hback]
        rfl

/-! ## Texts -/

theorem decodeLossy_encodeChar (c : Char) (rest : List UInt8) :
    decodeLossy (encodeChar c ++ rest) = c :: decodeLossy rest := by
  unfold decodeLossy
  rw [readFrom_encodeChar, List.map_cons, Option.getD_some]

theorem encode_cons (c : Char) (cs : List Char) : encode (c :: cs) = encodeChar c ++ encode cs :=
  rfl

theorem readFrom_encode (cs : List Char) : readFrom 0 (encode cs) = cs.map some := by
  induction cs with
  | nil => rfl
  | cons c cs ih => rw [encode_cons, readFrom_encodeChar, ih, List.map_cons]

/-- **A text is read back from its bytes.** -/
theorem decodeLossy_encode (cs : List Char) : decodeLossy (encode cs) = cs := by
  unfold decodeLossy
  rw [readFrom_encode, List.map_map]
  exact List.map_id cs

/-- Nothing in its bytes is malformed. -/
theorem decode?_encode (cs : List Char) : decode? (encode cs) = some cs := by
  unfold decode?
  rw [readFrom_encode]
  induction cs with
  | nil => rfl
  | cons c cs ih => simp [ih]

/-- The bytes of ASCII characters are these characters. -/
theorem encode_of_ascii {cs : List Char} (h : ∀ c ∈ cs, c.toNat < 0x80) :
    (encode cs).map (fun b => Char.ofNat b.toNat) = cs := by
  induction cs with
  | nil => rfl
  | cons c cs ih =>
      have hc := h c List.mem_cons_self
      have hbyte : encodeChar c = [UInt8.ofNat c.toNat] := by
        unfold encodeChar
        rw [if_pos hc]
      have htoNat : (UInt8.ofNat c.toNat).toNat = c.toNat := by
        rw [UInt8.toNat_ofNat']
        omega
      rw [encode_cons, hbyte, List.singleton_append, List.map_cons, htoNat, Char.ofNat_toNat,
        ih fun d hd => h d (List.mem_cons_of_mem _ hd)]

/-! ## Null bytes -/

theorem decodeLossy_cons (b : UInt8) (bs : List UInt8) :
    decodeLossy (b :: bs) = (readChar b bs).1.getD replacement ::
      (readFrom (readChar b bs).2 bs).map (·.getD replacement) := rfl

/-- A null byte is a character of its own, whatever stands before it. -/
theorem decodeLossy_then_null (b : UInt8) (bs : List UInt8) :
    ∃ c, decodeLossy (b :: 0 :: bs) = c :: '\x00' :: decodeLossy bs := by
  have hused : (readChar b (0 :: bs)).2 = 0 := by
    unfold readChar
    dsimp only
    split
    · rfl
    · cases hrange : leadRange b.toNat with
      | none => rfl
      | some range =>
          obtain ⟨count, lo, hi⟩ := range
          obtain ⟨hcount, hlo⟩ := leadRange_pos hrange
          obtain ⟨more, rfl⟩ := Nat.exists_eq_succ_of_ne_zero (Nat.ne_of_gt hcount)
          simp [continuation, Nat.ne_of_gt hlo]
  refine ⟨(readChar b (0 :: bs)).1.getD replacement, ?_⟩
  rw [decodeLossy_cons, hused]
  rfl

end ReleaseSearch.Text.Utf8
