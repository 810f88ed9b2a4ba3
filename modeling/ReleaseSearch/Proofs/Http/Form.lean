import ReleaseSearch.Http.Message
import ReleaseSearch.Proofs.Request.Percent
import ReleaseSearch.Proofs.Text.Pieces

/-!
# The fields of a query

`Form.read` reads the fields of a query: pieces between ampersands, each a name and a value with an
equals sign between them, in which a plus sign is a blank and bytes may be encoded.  The main
statements are that the fields of a form are read back from its written form, and that a query
becomes part of an address without a change of its fields.
-/

namespace ReleaseSearch.Http.Form

open Text

/-! ## Reading -/

/-- The character that a character of a name or a value is read as. -/
def readChar (c : Char) : Char := if c = '+' then ' ' else c

def readText (cs : List Char) : String := String.ofList (Percent.decode (cs.map readChar))

/-- The field that a piece of a query stands for; without an equals sign it is a name alone. -/
def readField (piece : List Char) : String × String :=
  match cut? '=' piece with
  | some (name, value) => (readText name, readText value)
  | none => (readText piece, "")

def read (query : List Char) : List (String × String) :=
  ((splitOn '&' query).filter (!·.isEmpty)).map readField

/-! ## Names and values -/

def writeChar (c : Char) : List Char :=
  if c == ' ' then ['+'] else Percent.encodeChar Percent.isUnreserved c

/-- What is written of a character is an unreserved character, a plus sign or encoded. -/
theorem mem_writeChar {c d : Char} (h : d ∈ writeChar c) :
    Percent.isUnreserved d = true ∨ d = '+' ∨ d = '%' := by
  unfold writeChar at h
  split at h
  · exact .inr (.inl (List.mem_singleton.mp h))
  · rcases Percent.mem_encodeChar h with hd | hd
    · exact .inl hd
    · exact .inr (.inr hd)

theorem not_mem_encodeField {sep : Char} (hreserved : Percent.isUnreserved sep = false)
    (hplus : sep ≠ '+') (hpercent : sep ≠ '%') (s : String) :
    sep ∉ (Percent.encodeField s).toList := by
  unfold Percent.encodeField
  rw [String.toList_ofList]
  intro h
  obtain ⟨c, _, hc⟩ := List.mem_flatMap.mp h
  rcases mem_writeChar hc with hsep | hsep | hsep
  · rw [hreserved] at hsep
    cases hsep
  · exact hplus hsep
  · exact hpercent hsep

/-- No encoded byte is read as another. -/
theorem map_readChar_encodeBytes (bs : List UInt8) :
    (bs.flatMap Percent.encodeByte).map readChar = bs.flatMap Percent.encodeByte := by
  have hdigit : ∀ n < 16, readChar (Percent.hexDigit n) = Percent.hexDigit n := by decide
  rw [List.map_congr_left (g := id), List.map_id]
  intro d hd
  rcases Percent.mem_encodeBytes hd with rfl | ⟨n, hn, rfl⟩
  · rfl
  · exact hdigit n hn

/-- A name or a value is read as if blanks stood for themselves. -/
theorem map_readChar_writeChar (c : Char) :
    (writeChar c).map readChar =
      Percent.encodeChar (fun c => c == ' ' || Percent.isUnreserved c) c := by
  unfold writeChar Percent.encodeChar
  by_cases hblank : c = ' '
  · subst hblank
    rfl
  · have hblank : (c == ' ') = false := beq_eq_false_iff_ne.mpr hblank
    simp only [hblank, Bool.false_or, Bool.false_eq_true, if_false]
    by_cases hsafe : Percent.isUnreserved c = true
    · have hc : c ≠ '+' := by
        rintro rfl
        exact absurd hsafe (by decide)
      simp [hsafe, readChar, hc]
    · rw [if_neg hsafe]
      exact map_readChar_encodeBytes _

/-- **A name or a value is read back.** -/
theorem readText_encodeField (s : String) : readText (Percent.encodeField s).toList = s := by
  have hread : (Percent.encodeField s).toList.map readChar =
      Percent.encodeWith (fun c => c == ' ' || Percent.isUnreserved c) s.toList := by
    unfold Percent.encodeField Percent.encodeWith
    rw [String.toList_ofList, List.map_flatMap]
    exact List.flatMap_congr fun c _ => map_readChar_writeChar c
  unfold readText
  rw [hread, Percent.decode_encodeWith (by decide), String.ofList_toList]

/-! ## Fields -/

def fieldText (f : String × String) : List Char :=
  (Percent.encodeField f.1).toList ++ '=' :: (Percent.encodeField f.2).toList

theorem encode_toList (fields : List (String × String)) :
    (encode fields).toList = ['&'].intercalate (fields.map fieldText) := by
  have hsep : "&".toList = ['&'] := by decide
  have hfield : (String.toList ∘ fun f : String × String =>
      Percent.encodeField f.1 ++ "=" ++ Percent.encodeField f.2) = fieldText := by
    funext f
    unfold fieldText
    simp only [Function.comp_apply, String.toList_append, List.append_assoc]
    rfl
  unfold encode
  rw [String.toList_intercalate, List.map_map, hsep, hfield]

theorem readField_fieldText (f : String × String) : readField (fieldText f) = f := by
  have hname : '=' ∉ (Percent.encodeField f.1).toList :=
    not_mem_encodeField (by decide) (by decide) (by decide) f.1
  unfold readField fieldText
  rw [cut?_append hname]
  simp only [readText_encodeField]

theorem not_mem_fieldText (f : String × String) : '&' ∉ fieldText f := by
  have hpart (s : String) : '&' ∉ (Percent.encodeField s).toList :=
    not_mem_encodeField (by decide) (by decide) (by decide) s
  unfold fieldText
  rw [List.mem_append, List.mem_cons]
  rintro (h | h | h)
  · exact hpart f.1 h
  · exact absurd h (by decide)
  · exact hpart f.2 h

/-- **The fields of a form are read back from its written form.** -/
theorem read_encode (fields : List (String × String)) : read (encode fields).toList = fields := by
  have hfilled : (fields.map fieldText).filter (!·.isEmpty) = fields.map fieldText := by
    refine List.filter_eq_self.mpr fun piece hpiece => ?_
    obtain ⟨f, _, rfl⟩ := List.mem_map.mp hpiece
    simp [fieldText]
  unfold read
  rw [encode_toList]
  cases fields with
  | nil => rfl
  | cons f rest =>
      rw [splitOn_intercalate (by simp), hfilled, List.map_map,
        List.map_congr_left (g := id) fun f _ => ?_, List.map_id]
      · rw [Function.comp_apply, readField_fieldText, id_eq]
      intro piece hpiece
      obtain ⟨f', _, rfl⟩ := List.mem_map.mp hpiece
      exact not_mem_fieldText f'

/-! ## Queries in addresses -/

/-- How a character of a query is written in an address. -/
abbrev quoteChar : Char → List Char := Percent.encodeChar Address.isQuerySafe

/-- What is written of a character is the character, or no reserved one. -/
theorem keeps_quoteChar {sep : Char} (hsafe : Address.isQuerySafe sep = true)
    (hpercent : sep ≠ '%') (hdigit : ∀ n < 16, Percent.hexDigit n ≠ sep) :
    Keeps sep quoteChar := by
  constructor
  · unfold quoteChar Percent.encodeChar
    rw [if_pos hsafe]
  · intro c hc hmem
    unfold quoteChar Percent.encodeChar at hmem
    split at hmem
    · exact hc (List.mem_singleton.mp hmem).symm
    · rcases Percent.mem_encodeBytes hmem with hsep | ⟨n, hn, hsep⟩
      · exact hpercent hsep
      · exact hdigit n hn hsep.symm

theorem isQuerySafe_of_hex {c : Char} (h : (Text.hexValue? c).isSome = true) :
    Address.isQuerySafe c = true := by
  have hc := Percent.toNat_of_hexValue? h
  have hother : "\"#<>".toList.all (fun d => (Text.hexValue? d).isNone) = true := by decide
  unfold Address.isQuerySafe Address.isSafeBut
  rw [Bool.and_eq_true, Bool.and_eq_true, decide_eq_true_eq, decide_eq_true_eq,
    Bool.not_eq_true', List.contains_eq_mem, decide_eq_false_iff_not]
  refine ⟨⟨by omega, by omega⟩, fun hmem => ?_⟩
  have hnone := Option.isNone_iff_eq_none.mp (List.all_eq_true.mp hother c hmem)
  rw [hnone] at h
  cases h

/-- What is read as a hexadecimal digit is one. -/
theorem readChar_hex {c : Char} (h : (Text.hexValue? c).isSome = false) :
    (Text.hexValue? (readChar c)).isSome = false := by
  unfold readChar
  split
  · decide
  · exact h

theorem quoteChar_of_safe {c : Char} (h : Address.isQuerySafe c = true) : quoteChar c = [c] :=
  if_pos h

theorem quoteChar_of_reserved {c : Char} (h : Address.isQuerySafe c = false) :
    quoteChar c = (Utf8.encodeChar c).flatMap Percent.encodeByte :=
  if_neg (Bool.eq_false_iff.mp h)

/-- What is quoted begins with a percent sign. -/
theorem quoteChar_eq_cons {c : Char} (h : Address.isQuerySafe c = false) :
    ∃ ds, quoteChar c = '%' :: ds := by
  have hbytes : ∃ b bs, Utf8.encodeChar c = b :: bs := by
    unfold Utf8.encodeChar
    simp only
    split_ifs <;> exact ⟨_, _, rfl⟩
  obtain ⟨b, bs, hbytes⟩ := hbytes
  rw [quoteChar_of_reserved h, hbytes]
  exact ⟨_, rfl⟩

theorem readChar_of_ne {c : Char} (h : c ≠ '+') : readChar c = c := if_neg h

theorem readChar_of_reserved {c : Char} (h : Address.isQuerySafe c = false) : readChar c = c := by
  refine readChar_of_ne ?_
  rintro rfl
  exact absurd h (by decide)

/-- **What is quoted is read as if nothing had been quoted.** -/
theorem isTransparent_quoteChar :
    Percent.IsTransparent (fun c => (quoteChar c).map readChar) readChar where
  percent := by decide
  digit c hc := by
    -- a plus sign is read as a blank, but it is no digit
    have hplus : c ≠ '+' := by
      rintro rfl
      exact absurd hc (by decide)
    simp only [quoteChar_of_safe (isQuerySafe_of_hex hc), List.map_singleton, readChar_of_ne hplus,
      and_self]
  written c hc := by
    cases hsafe : Address.isQuerySafe c with
    | true =>
        refine ⟨readChar c, [], by rw [quoteChar_of_safe hsafe, List.map_singleton], ?_⟩
        exact readChar_hex hc
    | false =>
        obtain ⟨ds, hds⟩ := quoteChar_eq_cons hsafe
        refine ⟨'%', ds.map readChar, by rw [hds]; rfl, by decide⟩
  readAs c hc := readChar_hex hc
  bytes c hc := by
    have hread : readChar c ≠ '%' := by
      unfold readChar
      split
      · decide
      · exact hc
    refine ⟨hread, fun rest => ?_⟩
    cases hsafe : Address.isQuerySafe c with
    | true =>
        rw [quoteChar_of_safe hsafe, List.map_singleton, List.singleton_append,
          Percent.decodeBytes_cons hread]
    | false =>
        rw [quoteChar_of_reserved hsafe, map_readChar_encodeBytes, Percent.decodeBytes_encodeBytes,
          readChar_of_reserved hsafe]

theorem readText_quote (cs : List Char) : readText (cs.flatMap quoteChar) = readText cs := by
  unfold readText Percent.decode
  rw [List.map_flatMap, isTransparent_quoteChar.decodeBytes_flatMap]

theorem readField_quote (piece : List Char) :
    readField (piece.flatMap quoteChar) = readField piece := by
  have hkeeps : Keeps '=' quoteChar := keeps_quoteChar (by decide) (by decide) (by decide)
  unfold readField
  rw [hkeeps.cut?_flatMap]
  cases cut? '=' piece with
  | none => exact Prod.ext (readText_quote piece) rfl
  | some parts => exact Prod.ext (readText_quote parts.1) (readText_quote parts.2)

theorem isEmpty_quote (piece : List Char) : (piece.flatMap quoteChar).isEmpty = piece.isEmpty := by
  cases piece with
  | nil => rfl
  | cons c cs =>
      rw [List.flatMap_cons]
      cases hsafe : Address.isQuerySafe c with
      | true => rw [quoteChar_of_safe hsafe, List.singleton_append]; rfl
      | false =>
          obtain ⟨ds, hds⟩ := quoteChar_eq_cons hsafe
          rw [hds]
          rfl

/-- **A query becomes part of an address without a change of its fields.** -/
theorem read_quote (query : List Char) :
    read (Percent.encodeWith Address.isQuerySafe query) = read query := by
  have hkeeps : Keeps '&' quoteChar := keeps_quoteChar (by decide) (by decide) (by decide)
  have hempty : (fun piece : List Char => !piece.isEmpty) ∘ (List.flatMap quoteChar) =
      fun piece : List Char => !piece.isEmpty :=
    funext fun piece => congrArg (!·) (isEmpty_quote piece)
  have hfield : readField ∘ (List.flatMap quoteChar) = readField := funext readField_quote
  unfold read
  show ((splitOn '&' (query.flatMap quoteChar)).filter (!·.isEmpty)).map readField = _
  rw [hkeeps.splitOn_flatMap, List.filter_map, hempty, List.map_map, hfield]

end ReleaseSearch.Http.Form
