import ReleaseSearch.Proofs.Request.Percent
import ReleaseSearch.Proofs.Request.Template

/-!
# Filling the template of an address

In an address the query is encoded, and there is no brace in an encoded text.  So nothing that is
put in for a placeholder can be taken for another one, and the template is filled piece by piece
whatever was typed.
-/

namespace ReleaseSearch

theorem Decimal.not_mem_intText {c : Char} (hdigit : c.isDigit = false) (hminus : c ≠ '-')
    (n : Int) :
    c ∉ (intText n).toList := by
  have hdigits : c ∉ natDigits n.natAbs := fun hmem =>
    Bool.false_ne_true (hdigit ▸ Nat.isDigit_of_mem_toDigits (by decide) (by decide) hmem)
  unfold intText
  split <;> simp [hdigits, hminus]

def SearchOptions.numbers (options : SearchOptions) : List Int :=
  (options.season.map fun (n : Nat) => (n : Int)).toList ++
    (options.episode.map fun (n : Nat) => (n : Int)).toList ++ options.tmdbId.toList ++
    options.categories

namespace Template

open Text Piece

variable {options : SearchOptions} {pieces : List Piece}

/-- A template for an address: plain texts without an opening brace, and placeholders. -/
structure IsAddress (pieces : List Piece) : Prop where
  bare : ∀ s, .text s ∈ pieces → '{' ∉ s.toList
  untyped : .typed ∉ pieces

/-! ## What is put in has no brace -/

section Words

variable {words : Placeholder → String}

theorem not_mem_of_inWords {n : Int} {text : String} (h : (Data.int n).inWords = .ok text) :
    '{' ∉ text.toList :=
  Data.inWords_int h ▸ Decimal.not_mem_intText (by decide) (by decide) n

theorem not_mem_of_numberWords {n : Option Int} {text : String} (h : numberWords n = .ok text) :
    '{' ∉ text.toList := by
  cases n with
  | none =>
      cases h
      exact List.not_mem_nil
  | some n => exact not_mem_of_inWords h

theorem not_mem_given (himdbId : '{' ∉ (options.imdbId.getD "").toList) {p : Placeholder}
    {text : String} (h : given (Percent.encodeText options.query) options p = .ok text) :
    '{' ∉ text.toList := by
  have hquery : '{' ∉ (Percent.encodeText options.query).toList :=
    Percent.not_mem_encodeText (by decide) (by decide) options.query
  -- besides the query there are only numbers, and one text that is put in as it was given
  cases p with
  | keywords =>
      cases h
      exact hquery
  | series =>
      cases h
      exact hquery
  | season => exact not_mem_of_numberWords h
  | episode => exact not_mem_of_numberWords h
  | imdbId =>
      cases h
      exact himdbId
  | tmdbId => exact not_mem_of_numberWords h
  | categories =>
      obtain ⟨texts, htexts, htext⟩ := bind_eq_ok_iff.mp h
      cases htext
      intro hmem
      rw [String.toList_intercalate] at hmem
      rcases mem_intercalate hmem with hcomma | ⟨digits, hdigits, hmem⟩
      · exact absurd hcomma (by decide +kernel)
      · obtain ⟨text, htext, rfl⟩ := List.mem_map.mp hdigits
        obtain ⟨n, _, hn⟩ := exists_mem_of_forall₂ (mapM_eq_ok_iff.mp htexts).flip htext
        exact not_mem_of_inWords hn hmem

/-- So no placeholder comes out. -/
theorem plain_filled (hpieces : IsAddress pieces) (hwords : ∀ p, '{' ∉ (words p).toList) :
    Plain (filled words pieces) := by
  have hpiece (x : Piece) (hx : x ∈ pieces) : '{' ∉ (x.filled words).toList := by
    cases x with
    | text s => exact hpieces.bare s hx
    | hole p => exact hwords p
    | typed => exact absurd hx hpieces.untyped
  -- but a placeholder has an opening brace
  intro p hinfix
  have hmem : '{' ∈ (filled words pieces).toList :=
    hinfix.subset (p.toList_written ▸ List.mem_cons_self)
  rw [toList_filled] at hmem
  obtain ⟨x, hx, hmem⟩ := List.mem_flatMap.mp hmem
  exact hpiece x hx hmem

end Words

/-! ## Filling -/

/-- Before anything is replaced, all placeholders are shown as they are written. -/
theorem toList_written_of_untyped (words : Placeholder → String) (h : .typed ∉ pieces) :
    (written pieces).toList = pieces.flatMap (shown words Placeholder.all) := by
  rw [toList_written]
  refine List.flatMap_congr fun x hx => ?_
  cases x with
  | text s => rfl
  | hole p => exact (if_pos p.mem_all).symm
  | typed => exact absurd hx h

theorem fill_address {words : Placeholder → String} (hpieces : IsAddress pieces)
    (himdbId : '{' ∉ (options.imdbId.getD "").toList)
    (hwords : ∀ p, given (Percent.encodeText options.query) options p = .ok (words p)) :
    fill true options (written pieces) = .ok (filled words pieces) := by
  have hstart : written pieces = String.ofList (pieces.flatMap (shown words Placeholder.all)) := by
    rw [← toList_written_of_untyped words hpieces.untyped, String.ofList_toList]
  have hplain : Plain (filled words pieces) :=
    plain_filled hpieces fun p => not_mem_given himdbId (hwords p)
  -- nothing is replaced before the placeholders, as the form for what was typed is for inputs only
  rw [@fill_of_given true options words hwords, if_pos rfl, hstart]
  exact congrArg Except.ok (foldl_replace (by decide) hplain)

/-- If no number is too long, there are words for all placeholders. -/
theorem exists_given (query : String)
    (hnumbers : ∀ n ∈ options.numbers, (Data.int n).isWritable = true) :
    ∃ words : Placeholder → String, ∀ p, given query options p = .ok (words p) := by
  have hnumber {n : Option Int} (hn : ∀ m ∈ n, m ∈ options.numbers) :
      ∃ text, numberWords n = .ok text := by
    cases n with
    | none => exact ⟨_, rfl⟩
    | some m => exact ⟨_, Data.inWords_of_isWritable (hnumbers m (hn m rfl))⟩
  suffices h : ∀ p, ∃ text, given query options p = .ok text from
    ⟨fun p => (h p).choose, fun p => (h p).choose_spec⟩
  intro p
  cases p with
  | keywords => exact ⟨_, rfl⟩
  | series => exact ⟨_, rfl⟩
  | imdbId => exact ⟨_, rfl⟩
  -- the holes that are filled with numbers need words for them
  | season => exact hnumber fun n hn => by simp [SearchOptions.numbers, Option.mem_def.mp hn]
  | episode => exact hnumber fun n hn => by simp [SearchOptions.numbers, Option.mem_def.mp hn]
  | tmdbId => exact hnumber fun n hn => by simp [SearchOptions.numbers, Option.mem_def.mp hn]
  | categories =>
      obtain ⟨texts, htexts⟩ := exists_mapM_ok_iff.mpr fun n (hn : n ∈ options.categories) =>
        (⟨_, Data.inWords_of_isWritable (hnumbers n (by simp [SearchOptions.numbers, hn]))⟩ :
          ∃ text, (Data.int n).inWords = .ok text)
      rw [given, htexts]
      exact ⟨_, rfl⟩

/-- **The template of an address is filled piece by piece**: every plain text stays as it is, and
every placeholder becomes the words for what it asks for, the query encoded. -/
theorem address_filled (hpieces : IsAddress pieces)
    (himdbId : '{' ∉ (options.imdbId.getD "").toList)
    (hnumbers : ∀ n ∈ options.numbers, (Data.int n).isWritable = true) :
    ∃ words : Placeholder → String,
      (∀ p, given (Percent.encodeText options.query) options p = .ok (words p)) ∧
        fill true options (written pieces) = .ok (filled words pieces) := by
  obtain ⟨words, hwords⟩ := exists_given (Percent.encodeText options.query) hnumbers
  exact ⟨words, hwords, fill_address hpieces himdbId hwords⟩

def typedPlaceholder : SearchOptions where
  query := Placeholder.season.written
  season := some 2
  categories := [2000, 5040]

/-- What was typed is no placeholder in an address. -/
theorem address_filled_typed :
    fill true typedPlaceholder
        (written [.text "/$raw:", .hole .keywords, .hole .season, .text "?c=", .hole .categories]) =
      .ok "/$raw:%7B%7B%20.Query.Season%20%7D%7D2?c=2000,5040" := by
  have hpieces : IsAddress
      [.text "/$raw:", .hole .keywords, .hole .season, .text "?c=", .hole .categories] := by
    constructor
    · intro s hs
      have hs : s = "/$raw:" ∨ s = "?c=" := by simpa using hs
      rcases hs with rfl | rfl <;> decide +kernel
    · simp
  have hnumbers : ∀ n ∈ typedPlaceholder.numbers, (Data.int n).isWritable = true := by
    intro n hn
    have hn : n = 2 ∨ n = 2000 ∨ n = 5040 := by
      simpa [SearchOptions.numbers, typedPlaceholder] using hn
    rcases hn with rfl | rfl | rfl <;> exact Data.isWritable_int 4 (by decide) (by decide)
  have hnumber (n : Int) (hn : n ∈ typedPlaceholder.numbers) :
      (Data.int n).inWords = .ok (Decimal.intText n) := Data.inWords_of_isWritable (hnumbers n hn)
  -- The words for the holes are those that the search gives; what was typed is encoded.
  obtain ⟨words, hwords, hfill⟩ := address_filled hpieces (by decide +kernel) hnumbers
  have hkeywords : words .keywords = Percent.encodeText Placeholder.season.written :=
    (Except.ok.inj (hwords .keywords)).symm
  have hseason : words .season = Decimal.intText 2 :=
    Except.ok.inj ((hwords .season).symm.trans (hnumber (2 : Nat) (by decide)))
  have hcategories :
      words .categories = ",".intercalate [Decimal.intText 2000, Decimal.intText 5040] := by
    refine Except.ok.inj ((hwords .categories).symm.trans ?_)
    simp only [given, typedPlaceholder, List.mapM_cons, List.mapM_nil,
      hnumber 2000 (by decide), hnumber 5040 (by decide)]
    rfl
  rw [hfill]
  simp only [filled, List.map_cons, List.map_nil, Piece.filled, hkeywords, hseason, hcategories]
  exact congrArg Except.ok (by decide +kernel)

end Template

end ReleaseSearch
