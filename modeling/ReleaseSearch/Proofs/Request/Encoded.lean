import ReleaseSearch.Proofs.Request.Percent

/-!
# Encoded texts

An encoded text is made of unreserved characters and of bytes, and each byte is a percent sign with
two hexadecimal digits in upper case.  The main statement says what encoding makes of a text: a text
of that form, from which it is read back, made part by part, and the same text only if it is
unreserved throughout.
-/

namespace ReleaseSearch.Percent

open Text

/-! ## The form of an encoded text -/

/-- Whether a character is a hexadecimal digit, in upper case. -/
def isUpperHex (c : Char) : Bool := isAsciiDigit c || ('A' ≤ c && c ≤ 'F')

/-- Whether a text has the form of an encoded one. -/
inductive IsEncoded : List Char → Prop
  | nil : IsEncoded []
  | plain {c : Char} {rest : List Char} :
      isUnreserved c = true → IsEncoded rest → IsEncoded (c :: rest)
  | byte {a b : Char} {rest : List Char} : isUpperHex a = true → isUpperHex b = true →
      IsEncoded rest → IsEncoded ('%' :: a :: b :: rest)

theorem IsEncoded.append {cs ds : List Char} (hcs : IsEncoded cs) (hds : IsEncoded ds) :
    IsEncoded (cs ++ ds) := by
  induction hcs with
  | nil => exact hds
  | plain hc _ ih => exact .plain hc ih
  | byte ha hb _ ih => exact .byte ha hb ih

theorem isEncoded_flatMap {α : Type} {write : α → List Char} (h : ∀ x, IsEncoded (write x))
    (xs : List α) : IsEncoded (xs.flatMap write) := by
  induction xs with
  | nil => exact .nil
  | cons x xs ih => exact (h x).append ih

theorem isEncoded_encodeByte (b : UInt8) : IsEncoded (encodeByte b) := by
  have hdigit : ∀ n < 16, isUpperHex (hexDigit n) = true := by decide
  have hb : b.toNat < 256 := b.toNat_lt
  exact .byte (hdigit _ (by omega)) (hdigit _ (by omega)) .nil

theorem isEncoded_encodeChar (c : Char) : IsEncoded (encodeChar isUnreserved c) := by
  unfold encodeChar
  split
  · next hc => exact .plain hc .nil
  · exact isEncoded_flatMap isEncoded_encodeByte _

theorem isEncoded_encode (cs : List Char) : IsEncoded (encode cs) :=
  isEncoded_flatMap isEncoded_encodeChar cs

/-! ## What stays as it is -/

/-- A character that is encoded takes at least three. -/
theorem length_encodeChar {c : Char} (h : isUnreserved c = false) :
    3 ≤ (encodeChar isUnreserved c).length := by
  obtain ⟨b, bs, hbs⟩ := List.exists_cons_of_ne_nil (Utf8.encodeChar_ne_nil c)
  unfold encodeChar
  rw [h, hbs]
  simp [encodeByte]

theorem length_le_encode (cs : List Char) : cs.length ≤ (encode cs).length := by
  induction cs with
  | nil => exact Nat.le_refl 0
  | cons c cs ih =>
      have hc : 1 ≤ (encodeChar isUnreserved c).length := by
        cases hreserved : isUnreserved c with
        | true => simp [encodeChar, hreserved]
        | false => exact Nat.le_trans (by decide) (length_encodeChar hreserved)
      have hcons : encode (c :: cs) = encodeChar isUnreserved c ++ encode cs := rfl
      rw [hcons, List.length_append, List.length_cons]
      omega

theorem encode_eq_self_iff (cs : List Char) :
    encode cs = cs ↔ ∀ c ∈ cs, isUnreserved c = true := by
  induction cs with
  | nil => simp [encode, encodeWith]
  | cons c cs ih =>
      have hcons : encode (c :: cs) = encodeChar isUnreserved c ++ encode cs := rfl
      rw [hcons, List.forall_mem_cons, ← ih]
      cases hreserved : isUnreserved c with
      | true =>
          have hc : encodeChar isUnreserved c = [c] := if_pos hreserved
          rw [hc]
          simp
      | false =>
          -- what is encoded grows, and nothing after it shrinks
          have hc := length_encodeChar hreserved
          have hcs := length_le_encode cs
          constructor
          · intro h
            have hlength := congrArg List.length h
            rw [List.length_append, List.length_cons] at hlength
            omega
          · rintro ⟨h, -⟩
            cases h

/-! ## Strings -/

theorem toList_encodeText (s : String) : (encodeText s).toList = encode s.toList :=
  String.toList_ofList

/-- The bytes of an encoded text are those of the text. -/
theorem decodeBytes_encodeText (s : String) :
    decodeBytes (encodeText s).toList = Utf8.encode s.toList := by
  rw [toList_encodeText]
  exact decodeBytes_encodeWith (by decide) s.toList

theorem read_encodeText (s : String) :
    Utf8.decode? (decodeBytes (encodeText s).toList) = some s.toList := by
  rw [decodeBytes_encodeText, Utf8.decode?_encode]

theorem encodeText_injective : Function.Injective encodeText := by
  intro s t h
  have hread := read_encodeText s
  rw [h, read_encodeText] at hread
  exact String.toList_inj.mp (Option.some.inj hread).symm

theorem encodeText_append (s t : String) :
    encodeText (s ++ t) = encodeText s ++ encodeText t := by
  apply String.toList_inj.mp
  rw [toList_encodeText, String.toList_append, String.toList_append, toList_encodeText,
    toList_encodeText]
  exact encodeWith_append isUnreserved s.toList t.toList

/-- **An encoded text** has the form of one and is read back, so that no other text is encoded like
it; texts that are put together are encoded one by one; and only unreserved characters stay as they
are. -/
theorem encodeText_faithful (s : String) :
    IsEncoded (encodeText s).toList ∧
      Utf8.decode? (decodeBytes (encodeText s).toList) = some s.toList ∧
      (∀ t, encodeText t = encodeText s → t = s) ∧
      (∀ t, encodeText (s ++ t) = encodeText s ++ encodeText t) ∧
      (encodeText s = s ↔ ∀ c ∈ s.toList, isUnreserved c = true) := by
  refine ⟨?form, read_encodeText s, fun t h => encodeText_injective h, encodeText_append s, ?same⟩
  case form =>
    rw [toList_encodeText]
    exact isEncoded_encode s.toList
  case same =>
    rw [← encode_eq_self_iff, ← toList_encodeText, String.toList_inj]

example : encodeText "90% é🎬" = "90%25%20%C3%A9%F0%9F%8E%AC" := by decide +kernel

end ReleaseSearch.Percent
