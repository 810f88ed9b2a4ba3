import ReleaseSearch.Proofs.Text.Utf8
import ReleaseSearch.Request.Percent

/-!
# Reading what was percent-encoded

The bytes of an encoded text are those of the text, as long as the percent sign does not stand for
itself.  Where it does, as in an address that may already hold encoded parts, encoding still does
not change what a text stands for: the main statement on that is `decodeBytes_flatMap`, for any way
of writing characters that leaves the percent sign and the hexadecimal digits as they are.
-/

namespace ReleaseSearch.Percent

open Text

/-! ## Hexadecimal digits -/

theorem hexValue?_hexDigit : ∀ n < 16, hexValue? (hexDigit n) = some n := by decide

/-- What bytes are encoded as. -/
theorem mem_encodeBytes {bs : List UInt8} {d : Char} (h : d ∈ bs.flatMap encodeByte) :
    d = '%' ∨ ∃ n < 16, d = hexDigit n := by
  obtain ⟨b, _, hd⟩ := List.mem_flatMap.mp h
  have hb : b.toNat < 256 := b.toNat_lt
  unfold encodeByte at hd
  simp only [List.mem_cons, List.not_mem_nil, or_false] at hd
  rcases hd with rfl | rfl | rfl
  · exact .inl rfl
  · exact .inr ⟨_, by omega, rfl⟩
  · exact .inr ⟨_, by omega, rfl⟩

/-- What a character is encoded as: itself, or a percent sign and digits. -/
theorem mem_encodeChar {c d : Char} (h : d ∈ encodeChar isUnreserved c) :
    isUnreserved d = true ∨ d = '%' := by
  unfold encodeChar at h
  split at h
  · next hc => exact .inl (List.mem_singleton.mp h ▸ hc)
  · have hdigit : ∀ n < 16, isUnreserved (hexDigit n) = true := by decide
    rcases mem_encodeBytes h with rfl | ⟨n, hn, rfl⟩
    · exact .inr rfl
    · exact .inl (hdigit n hn)

theorem not_mem_encodeText {c : Char} (hreserved : isUnreserved c = false) (hpercent : c ≠ '%')
    (s : String) : c ∉ (encodeText s).toList := by
  intro hmem
  rw [encodeText, String.toList_ofList] at hmem
  obtain ⟨d, -, hd⟩ := List.mem_flatMap.mp hmem
  rcases mem_encodeChar hd with hc | hc
  · rw [hreserved] at hc
    cases hc
  · exact hpercent hc

/-- A hexadecimal digit is a decimal digit or one of twelve letters. -/
theorem toNat_of_hexValue? {c : Char} (h : (hexValue? c).isSome = true) :
    48 ≤ c.toNat ∧ c.toNat ≤ 57 ∨ 97 ≤ c.toNat ∧ c.toNat ≤ 102 ∨ 65 ≤ c.toNat ∧ c.toNat ≤ 70 := by
  unfold hexValue? at h
  split at h
  · next hc =>
      simp only [isAsciiDigit, Bool.and_eq_true, decide_eq_true_eq] at hc
      exact .inl ⟨hc.1, hc.2⟩
  · split at h
    · next hc =>
        simp only [Bool.and_eq_true, decide_eq_true_eq] at hc
        exact .inr (.inl ⟨hc.1, hc.2⟩)
    · split at h
      · next hc =>
          simp only [Bool.and_eq_true, decide_eq_true_eq] at hc
          exact .inr (.inr ⟨hc.1, hc.2⟩)
      · cases h

/-! ## Decoding -/

/-- Whether a text begins with two hexadecimal digits. -/
def startsHex : List Char → Bool
  | a :: b :: _ => (hexValue? a).isSome && (hexValue? b).isSome
  | _ => false

theorem decodeBytes_cons {c : Char} (hc : c ≠ '%') (rest : List Char) :
    decodeBytes (c :: rest) = Utf8.encodeChar c ++ decodeBytes rest := by
  rw [decodeBytes]
  rintro a b rest' rfl
  exact absurd rfl hc

/-- A percent sign before two hexadecimal digits is a byte. -/
theorem decodeBytes_percent_hex {a b : Char} {m n : Nat} (ha : hexValue? a = some m)
    (hb : hexValue? b = some n) (rest : List Char) :
    decodeBytes ('%' :: a :: b :: rest) = UInt8.ofNat (16 * m + n) :: decodeBytes rest := by
  rw [decodeBytes, ha, hb]

/-- Anywhere else it stands for itself. -/
theorem decodeBytes_percent {rest : List Char} (h : startsHex rest = false) :
    decodeBytes ('%' :: rest) = 37 :: decodeBytes rest := by
  match rest with
  | [] => rfl
  | [a] => rfl
  | a :: b :: rest =>
      rw [decodeBytes]
      split
      · next ha hb => simp [startsHex, ha, hb] at h
      · rfl

theorem decodeBytes_encodeByte (b : UInt8) (rest : List Char) :
    decodeBytes (encodeByte b ++ rest) = b :: decodeBytes rest := by
  have hb : b.toNat < 256 := b.toNat_lt
  have hvalue : 16 * (b.toNat / 16) + b.toNat % 16 = b.toNat := by omega
  unfold encodeByte
  rw [List.cons_append, List.cons_append, List.cons_append, List.nil_append,
    decodeBytes_percent_hex (hexValue?_hexDigit _ (by omega)) (hexValue?_hexDigit _ (by omega)),
    hvalue, UInt8.ofNat_toNat]

theorem decodeBytes_encodeBytes (bs : List UInt8) (rest : List Char) :
    decodeBytes (bs.flatMap encodeByte ++ rest) = bs ++ decodeBytes rest := by
  induction bs with
  | nil => rfl
  | cons b bs ih =>
      rw [List.flatMap_cons, List.append_assoc, decodeBytes_encodeByte, ih, List.cons_append]

/-- The bytes of a character, however it is written. -/
theorem decodeBytes_encodeChar {safe : Char → Bool} {c : Char} (h : safe c = true → c ≠ '%')
    (rest : List Char) :
    decodeBytes (encodeChar safe c ++ rest) = Utf8.encodeChar c ++ decodeBytes rest := by
  unfold encodeChar
  by_cases hc : safe c = true
  · rw [if_pos hc, List.singleton_append, decodeBytes_cons (h hc)]
  · rw [if_neg hc, decodeBytes_encodeBytes]

/-- **An encoded text stands for the bytes of the text.** -/
theorem decodeBytes_encodeWith {safe : Char → Bool} (h : safe '%' = false) (cs : List Char) :
    decodeBytes (encodeWith safe cs) = Utf8.encode cs := by
  unfold encodeWith
  induction cs with
  | nil => rfl
  | cons c cs ih =>
      have hc : safe c = true → c ≠ '%' := by
        rintro hsafe rfl
        rw [h] at hsafe
        cases hsafe
      rw [List.flatMap_cons, decodeBytes_encodeChar hc, ih, Utf8.encode_cons]

/-- So it is read back. -/
theorem decode_encodeWith {safe : Char → Bool} (h : safe '%' = false) (cs : List Char) :
    decode (encodeWith safe cs) = cs := by
  unfold decode
  rw [decodeBytes_encodeWith h, Utf8.decodeLossy_encode]

/-! ## Encoding what may be encoded -/

/-- A way to write characters that leaves the percent sign and the hexadecimal digits as they are
and makes no other character look like a digit; `read` is the character that each one is read
as. -/
structure IsTransparent (write : Char → List Char) (read : Char → Char) : Prop where
  percent : write '%' = ['%'] ∧ read '%' = '%'
  digit : ∀ c, (hexValue? c).isSome = true → write c = [c] ∧ read c = c
  written : ∀ c, (hexValue? c).isSome = false →
    ∃ d ds, write c = d :: ds ∧ (hexValue? d).isSome = false
  readAs : ∀ c, (hexValue? c).isSome = false → (hexValue? (read c)).isSome = false
  bytes : ∀ c, c ≠ '%' → read c ≠ '%' ∧
    ∀ rest, decodeBytes (write c ++ rest) = Utf8.encodeChar (read c) ++ decodeBytes rest

namespace IsTransparent

variable {write : Char → List Char} {read : Char → Char}

theorem startsHex_flatMap (h : IsTransparent write read) (cs : List Char) :
    startsHex (cs.flatMap write) = startsHex cs := by
  -- A digit is written as itself, and what is written for any other character starts with no digit.
  match cs with
  | [] => rfl
  | a :: cs =>
      rw [List.flatMap_cons]
      cases ha : (hexValue? a).isSome with
      | false =>
          obtain ⟨d, ds, hwrite, hd⟩ := h.written a ha
          rw [hwrite, List.cons_append]
          cases hrest : ds ++ cs.flatMap write with
          | nil => cases cs <;> simp [startsHex, ha]
          | cons d' rest => cases cs <;> simp [startsHex, ha, hd]
      | true =>
          rw [(h.digit a ha).1, List.singleton_append]
          match cs with
          | [] => rfl
          | b :: cs =>
              rw [List.flatMap_cons]
              cases hb : (hexValue? b).isSome with
              | false =>
                  obtain ⟨d, ds, hwrite, hd⟩ := h.written b hb
                  rw [hwrite]
                  simp [startsHex, ha, hb, hd]
              | true =>
                  rw [(h.digit b hb).1]
                  simp [startsHex, ha, hb]

theorem startsHex_map (h : IsTransparent write read) (cs : List Char) :
    startsHex (cs.map read) = startsHex cs := by
  have hsame (c : Char) : (hexValue? (read c)).isSome = (hexValue? c).isSome := by
    cases hc : (hexValue? c).isSome with
    | false => exact h.readAs c hc
    | true => rw [(h.digit c hc).2, hc]
  match cs with
  | [] => rfl
  | [a] => rfl
  | a :: b :: cs => simp [startsHex, hsame]

/-- **Writing a text so does not change what it stands for**; the induction is on its length, since
a percent sign may take two characters along. -/
theorem decodeBytes_flatMap (h : IsTransparent write read) (cs : List Char) :
    decodeBytes (cs.flatMap write) = decodeBytes (cs.map read) := by
  -- By induction on the length, since an escape takes up three characters at once.
  induction hlength : cs.length using Nat.strongRecOn generalizing cs with
  | _ n ih =>
      match cs with
      | [] => rfl
      | c :: cs =>
          rw [List.length_cons] at hlength
          have hrest := ih cs.length (by omega) cs rfl
          rw [List.flatMap_cons, List.map_cons]
          by_cases hc : c = '%'
          · subst hc
            rw [h.percent.1, h.percent.2, List.singleton_append]
            cases hhex : startsHex cs with
            | false =>
                -- a percent sign without two digits after it stands for itself on both sides
                rw [decodeBytes_percent ((h.startsHex_flatMap cs).trans hhex),
                  decodeBytes_percent ((h.startsHex_map cs).trans hhex), hrest]
            | true =>
                match cs with
                | a :: b :: cs =>
                    simp only [startsHex, Bool.and_eq_true] at hhex
                    obtain ⟨m, hm⟩ := Option.isSome_iff_exists.mp hhex.1
                    obtain ⟨k, hk⟩ := Option.isSome_iff_exists.mp hhex.2
                    -- an escape: its digits are written and read as they are
                    rw [List.length_cons, List.length_cons] at hlength
                    rw [List.flatMap_cons, List.flatMap_cons, (h.digit a hhex.1).1,
                      (h.digit b hhex.2).1, List.map_cons, List.map_cons, (h.digit a hhex.1).2,
                      (h.digit b hhex.2).2, List.singleton_append, List.singleton_append,
                      decodeBytes_percent_hex hm hk, decodeBytes_percent_hex hm hk,
                      ih cs.length (by omega) cs rfl]
          · obtain ⟨hread, hbytes⟩ := h.bytes c hc
            rw [hbytes, decodeBytes_cons hread, hrest]

end IsTransparent

end ReleaseSearch.Percent
