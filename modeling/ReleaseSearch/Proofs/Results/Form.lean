import ReleaseSearch.Proofs.Json.Document
import ReleaseSearch.Proofs.Results.Trouble
import ReleaseSearch.Proofs.Text.Blank
import ReleaseSearch.Proofs.Text.Utf8

/-!
# Page or data

Before an answer is read it is sorted: as data if its text, without the blanks around it, begins
with a bracket and can be read, and as a page otherwise.  Then the whole answer is read.  The two
do not look at the same text: more characters are blank for the first than for the second, and the
first reads all bytes as UTF-8, be they well formed or not.

The main statement says when they agree.  An answer `IsPlain` if it has no other blanks around it
than those of JSON and, given as bytes, is written in UTF-8 as it should be.  A plain answer is
sorted as data exactly if it can be read as a list or a map, and an answer that is not plain but
sorted as data cannot be read.  A list or a map is taken for a page only if it `IsForeign`: its
bytes are in another character set, or begin with a mark.
-/

namespace ReleaseSearch.Results

open Text

/-! ## The characters at the ends -/

theorem isBlank_of_json {c : Char} (h : Json.isBlank c = true) : isBlank c = true := by
  rcases Json.isBlank_cases h with rfl | rfl | rfl | rfl <;> decide

theorem isBlank_of_opening {c : Char} (h : Json.IsOpening c) : isBlank c = false := by
  rcases h with rfl | rfl <;> decide

theorem isBlank_of_closing {c : Char} (h : Json.IsClosing c) : isBlank c = false := by
  rcases h with rfl | rfl <;> decide

/-- A blank that is none of JSON begins no value. -/
theorem startsNothing_of_isBlank {c : Char} (h : isBlank c = true) : Json.StartsNothing c := by
  have hne {d : Char} (hd : isBlank d = false) : c ≠ d := by
    rintro rfl
    rw [h] at hd
    cases hd
  refine ⟨hne (by decide), hne (by decide), hne (by decide), hne (by decide), ?_, ?_⟩
  · unfold isBlank at h
    unfold isAsciiDigit
    simp only [Bool.or_eq_true, Bool.and_eq_true, decide_eq_true_eq, beq_iff_eq] at h
    rw [Bool.and_eq_false_iff, decide_eq_false_iff_not, decide_eq_false_iff_not]
    by_contra hdigit
    push Not at hdigit
    have hlow : 48 ≤ c.toNat := hdigit.1
    have hhigh : c.toNat ≤ 57 := hdigit.2
    omega
  · have hall : Json.words.all (fun w => w.1.toList.head?.all (!isBlank ·)) = true := by decide
    intro w hw hfirst
    have hblank := List.all_eq_true.mp hall w hw
    rw [hfirst, Option.all_some, h] at hblank
    cases hblank

/-! ## Texts -/

/-- The blanks at both ends of a text are blanks of JSON. -/
def HasPlainEnds (cs : List Char) : Prop :=
  Json.AreBlank (cs.takeWhile isBlank) ∧ Json.AreBlank (cs.reverse.takeWhile isBlank)

instance (cs : List Char) : Decidable (HasPlainEnds cs) :=
  decidable_of_iff ((cs.takeWhile isBlank).all Json.isBlank = true ∧
      (cs.reverse.takeWhile isBlank).all Json.isBlank = true) <| by
    rw [List.all_eq_true, List.all_eq_true]
    rfl

/-- What can be read as a list or a map. -/
def ReadsAsContainer (cs : List Char) : Prop :=
  ∃ d, Json.read true cs = some d ∧ d.isContainer = true

theorem looksLikeData_iff {cs : List Char} :
    looksLikeData cs = true ↔ ∃ c cs', cs = c :: cs' ∧ Json.IsOpening c := by
  cases cs with
  | nil => simp [looksLikeData]
  | cons c cs => simp [looksLikeData, Json.IsOpening, or_comm]

/-- A text is sorted as data if what stripping leaves begins with a bracket and can be read. -/
theorem formOfText_eq_data_iff {cs : List Char} :
    formOfText cs = .data ↔ ∃ c middle d, stripBy isBlank cs = c :: middle ∧ Json.IsOpening c ∧
      Json.read true (c :: middle) = some d := by
  have hform : formOfText cs = .data ↔ looksLikeData (stripBy isBlank cs) = true ∧
      (Json.read true (stripBy isBlank cs)).isSome = true := by
    unfold formOfText
    simp only [Bool.and_eq_true]
    split
    · next h => exact ⟨fun _ => h, fun _ => rfl⟩
    · next h => exact ⟨fun h' => (nomatch h'), fun h' => absurd h' h⟩
  rw [hform, looksLikeData_iff, Option.isSome_iff_exists]
  constructor
  · rintro ⟨⟨c, middle, hstrip, hc⟩, d, hd⟩
    exact ⟨c, middle, d, hstrip, hc, hstrip ▸ hd⟩
  · rintro ⟨c, middle, d, hstrip, hc, hd⟩
    exact ⟨⟨c, middle, hstrip, hc⟩, d, hstrip ▸ hd⟩

/-- What is sorted as data stands, from its bracket on, between the blanks that are stripped. -/
theorem exists_of_form {cs : List Char} (h : formOfText cs = .data) :
    ∃ c middle d, cs = cs.takeWhile isBlank ++ (c :: middle) ++
        (cs.reverse.takeWhile isBlank).reverse ∧
      Json.IsOpening c ∧ Json.read true (c :: middle) = some d := by
  obtain ⟨c, middle, d, hstrip, hc, hd⟩ := formOfText_eq_data_iff.mp h
  have hcs := eq_append_stripBy cs (hstrip ▸ List.cons_ne_nil c middle)
  rw [hstrip] at hcs
  exact ⟨c, middle, d, hcs, hc, hd⟩

/-- **What can be read as a list or a map is sorted as data**, and has plain ends. -/
theorem form_of_readsAsContainer {cs : List Char} (h : ReadsAsContainer cs) :
    formOfText cs = .data ∧ HasPlainEnds cs := by
  obtain ⟨d, hread, hd⟩ := h
  obtain ⟨lead, c, middle, close, tail, hcs, hlead, hc, hclose, htail⟩ :=
    Json.exists_brackets_of_read hread hd
  have hlead' : ∀ b ∈ lead, isBlank b = true := fun b hb => isBlank_of_json (hlead b hb)
  have htail' : ∀ b ∈ tail, isBlank b = true := fun b hb => isBlank_of_json (htail b hb)
  -- What is read is a container, so brackets stand at both ends, and blanks around them.
  have hstrip : stripBy isBlank cs = c :: middle ++ [close] := by
    rw [hcs]
    exact stripBy_middle hlead' (isBlank_of_opening hc) (isBlank_of_closing hclose) htail'
  constructor
  · rw [hcs, Json.read_between_blanks hlead htail] at hread
    exact formOfText_eq_data_iff.mpr ⟨c, middle ++ [close], d, hstrip, hc, hread⟩
  · constructor
    · rw [hcs, List.append_assoc, List.cons_append, List.cons_append,
        takeWhile_lead hlead' (isBlank_of_opening hc)]
      exact hlead
    · have hreverse : cs.reverse =
          tail.reverse ++ close :: (middle.reverse ++ c :: lead.reverse) := by
        simp [hcs]
      rw [hreverse, takeWhile_lead (by simpa using htail') (isBlank_of_closing hclose)]
      exact fun b hb => htail b (List.mem_reverse.mp hb)

/-- What is sorted as data and has plain ends can be read as a list or a map. -/
theorem readsAsContainer_of_form {cs : List Char} (h : formOfText cs = .data)
    (hends : HasPlainEnds cs) : ReadsAsContainer cs := by
  obtain ⟨c, middle, d, hcs, hc, hd⟩ := exists_of_form h
  have htail : Json.AreBlank (cs.reverse.takeWhile isBlank).reverse :=
    fun b hb => hends.2 b (List.mem_reverse.mp hb)
  refine ⟨d, ?_, Json.isContainer_of_read hd (Json.skip_of_opening hc middle) hc⟩
  rw [hcs, Json.read_between_blanks hends.1 htail, hd]

/-- What is sorted as data but has other ends cannot be read. -/
theorem read_of_form {cs : List Char} (h : formOfText cs = .data) (hends : ¬ HasPlainEnds cs) :
    Json.read true cs = none := by
  obtain ⟨c, middle, _, hcs, hc, _⟩ := exists_of_form h
  rw [List.append_assoc] at hcs
  rw [Option.eq_none_iff_forall_ne_some]
  intro d hread
  -- The first character that JSON does not pass over is a blank of another kind or the bracket.
  cases hfirst : Json.skip (cs.takeWhile isBlank) with
  | nil =>
      have hskip : Json.skip cs = c :: (middle ++ (cs.reverse.takeWhile isBlank).reverse) := by
        conv_lhs => rw [hcs, Json.skip_append_of_areBlank (Json.skip_eq_nil_iff.mp hfirst)]
        exact Json.skip_of_opening hc _
      exact hends (form_of_readsAsContainer ⟨d, hread, Json.isContainer_of_read hread hskip hc⟩).2
  | cons b more =>
      have hb : isBlank b = true := by
        have hmem : b ∈ Json.skip (cs.takeWhile isBlank) := hfirst ▸ List.mem_cons_self
        exact List.mem_takeWhile_imp ((List.dropWhile_sublist _).subset hmem)
      have hskip : Json.skip cs =
          b :: (more ++ (c :: middle ++ (cs.reverse.takeWhile isBlank).reverse)) := by
        have hne : Json.skip (cs.takeWhile isBlank) ≠ [] := by simp [hfirst]
        conv_lhs => rw [hcs]
        unfold Json.skip at hfirst hne ⊢
        rw [List.dropWhile_append, if_neg (mt List.isEmpty_iff.mp hne), hfirst]
        rfl
      obtain ⟨rest, hvalue, _⟩ := Json.read_eq_some_iff.mp hread
      rw [hskip, Json.value?_of_startsNothing (startsNothing_of_isBlank hb)] at hvalue
      cases hvalue

/-! ## Bytes in other character sets -/

theorem formOfText_eq_page_iff {cs : List Char} :
    formOfText cs = .page ↔ formOfText cs ≠ .data := by
  cases formOfText cs <;> simp

/-- What begins with a character that is neither blank nor an opening bracket is a page. -/
theorem formOfText_of_first {c : Char} (hblank : isBlank c = false) (hc : ¬ Json.IsOpening c)
    (cs : List Char) : formOfText (c :: cs) = .page := by
  rw [formOfText_eq_page_iff]
  intro hform
  obtain ⟨cs', hstrip⟩ := stripBy_cons hblank cs
  obtain ⟨b, middle, _, hfirst, hb, _⟩ := formOfText_eq_data_iff.mp hform
  rw [hstrip] at hfirst
  cases hfirst
  exact hc hb

/-- What has the null character in the second place is a page. -/
theorem formOfText_of_second_null (c : Char) (cs : List Char) :
    formOfText (c :: '\x00' :: cs) = .page := by
  have hnull : isBlank '\x00' = false := by decide
  cases hblank : isBlank c with
  -- a blank is cut off, and the text starts with the null
  | true =>
      have hsame : formOfText (c :: '\x00' :: cs) = formOfText ('\x00' :: cs) := by
        unfold formOfText
        rw [stripBy_cons_of_pos hblank]
      rw [hsame]
      exact formOfText_of_first hnull (by decide) cs
  -- else the null stands behind the first character, and no value goes on with it
  | false =>
      rw [formOfText_eq_page_iff]
      intro hform
      obtain ⟨cs', hstrip⟩ := stripBy_append hblank hnull [] cs
      obtain ⟨b, middle, d, hfirst, hb, hread⟩ := formOfText_eq_data_iff.mp hform
      have hsame : c :: '\x00' :: cs' = b :: middle := hstrip.symm.trans hfirst
      have hnothing : Json.StartsNothing '\x00' := by
        unfold Json.StartsNothing
        decide
      rw [← hsame] at hread
      cases hsame
      rw [Json.read_of_opening_startsNothing hb hnothing (by decide) (by decide)] at hread
      cases hread

theorem cases_of_null {a b : UInt8} (h : a = 0 ∨ b = 0) (bs : List UInt8) :
    (∃ b' rest, a :: b :: bs = b' :: rest ∧ (b' = 0 ∨ b' = 0xfe ∨ b' = 0xff)) ∨
      ∃ b' rest, a :: b :: bs = b' :: 0 :: rest := by
  rcases h with rfl | rfl
  · exact .inl ⟨_, _, rfl, .inl rfl⟩
  · exact .inr ⟨_, _, rfl⟩

/-- Bytes are read in another character set only if they begin with a mark or with a null byte, or
have a null byte in the second place. -/
theorem cases_of_charset {bs : List UInt8} (h : Json.charset bs ≠ .utf8 false) :
    (∃ rest, bs = 0xef :: 0xbb :: 0xbf :: rest) ∨
      (∃ b rest, bs = b :: rest ∧ (b = 0 ∨ b = 0xfe ∨ b = 0xff)) ∨
      ∃ b rest, bs = b :: 0 :: rest := by
  unfold Json.charset at h
  simp only [Bool.or_eq_true, List.isPrefixOf_iff_prefix] at h
  split at h
  · next hmark =>
    rcases hmark with ⟨rest, rfl⟩ | ⟨rest, rfl⟩
    · exact .inr (.inl ⟨_, _, rfl, .inl rfl⟩)
    · exact .inr (.inl ⟨_, _, rfl, .inr (.inr rfl)⟩)
  · split at h
    · next hmark =>
      rcases hmark with ⟨rest, rfl⟩ | ⟨rest, rfl⟩
      · exact .inr (.inl ⟨_, _, rfl, .inr (.inl rfl)⟩)
      · exact .inr (.inl ⟨_, _, rfl, .inr (.inr rfl)⟩)
    · split at h
      · next hmark =>
        obtain ⟨rest, rfl⟩ := hmark
        exact .inl ⟨rest, rfl⟩
      · -- There is no mark, so the null bytes decide.
        split at h
        · refine .inr (cases_of_null ?_ _)
          by_contra hne
          push Not at hne
          simp [hne.1, hne.2] at h
        · refine .inr (cases_of_null ?_ _)
          by_contra hne
          push Not at hne
          simp [hne.1, hne.2] at h
        · exact absurd rfl h

/-- **What is read in another character set is a page**, be it written as a list or a map or not. -/
theorem formOfText_of_charset {bs : List UInt8} (h : Json.charset bs ≠ .utf8 false) :
    formOfText (Utf8.decodeLossy bs) = .page := by
  rcases cases_of_charset h with ⟨rest, rfl⟩ | ⟨b, rest, rfl, hb⟩ | ⟨b, rest, rfl⟩
  · have hmark : Utf8.decodeLossy (0xef :: 0xbb :: 0xbf :: rest) =
        '\ufeff' :: Utf8.decodeLossy rest := Utf8.decodeLossy_encodeChar '\ufeff' rest
    rw [hmark]
    exact formOfText_of_first (by decide) (by decide) _
  · rcases hb with rfl | rfl | rfl
    · have hnull : Utf8.decodeLossy (0 :: rest) = '\x00' :: Utf8.decodeLossy rest := rfl
      rw [hnull]
      exact formOfText_of_first (by decide) (by decide) _
    · have hbad : Utf8.decodeLossy (0xfe :: rest) = Utf8.replacement :: Utf8.decodeLossy rest := rfl
      rw [hbad]
      exact formOfText_of_first (by decide) (by decide) _
    · have hbad : Utf8.decodeLossy (0xff :: rest) = Utf8.replacement :: Utf8.decodeLossy rest := rfl
      rw [hbad]
      exact formOfText_of_first (by decide) (by decide) _
  · obtain ⟨c, hc⟩ := Utf8.decodeLossy_then_null b rest
    rw [hc]
    exact formOfText_of_second_null c _

/-! ## Answers -/

/-- The trouble of an answer that cannot be read as data. -/
def unreadable : Trouble := .failure (.search ("Invalid JSON: " ++ hiddenText))

/-- The answer can be read as data, and holds a list or a map. -/
def Body.HoldsContainer (body : Body) : Prop :=
  ∃ data, readData body = .ok data ∧ data.isContainer = true

/-- Bytes that are read in another character set than UTF-8, or in UTF-8 after a mark. -/
def Body.IsForeign : Body → Prop
  | .bytes bs => Json.charset bs ≠ .utf8 false
  | _ => False

/-- There are no blanks around the answer but those of JSON, and bytes are written in UTF-8 as they
should be. -/
def Body.IsPlain : Body → Prop
  | .absent => True
  | .text s => HasPlainEnds s.toList
  | .bytes bs =>
    Json.charset bs = .utf8 false ∧ (Charset.utf8 false).admits bs = true ∧
      HasPlainEnds (Utf8.decodeLossy bs)

instance (body : Body) : Decidable body.HoldsContainer :=
  decidable_of_iff ((readData body).toOption.any Data.isContainer = true) <| by
    unfold Body.HoldsContainer
    cases readData body <;> simp [Except.toOption]

instance : (body : Body) → Decidable body.IsForeign
  | .absent => .isFalse id
  | .text _ => .isFalse id
  | .bytes bs => inferInstanceAs (Decidable (Json.charset bs ≠ .utf8 false))

instance : (body : Body) → Decidable body.IsPlain
  | .absent => .isTrue trivial
  | .text s => inferInstanceAs (Decidable (HasPlainEnds s.toList))
  | .bytes bs =>
    inferInstanceAs (Decidable (Json.charset bs = .utf8 false ∧
      (Charset.utf8 false).admits bs = true ∧ HasPlainEnds (Utf8.decodeLossy bs)))

theorem orRefuse_eq_ok_iff {found : Option Data} {data : Data} :
    readData.orRefuse found = .ok data ↔ found = some data := by
  cases found <;> simp [readData.orRefuse]

theorem decode?_of_charset {bs : List UInt8} (h : Json.charset bs = .utf8 false) :
    Json.decode? bs =
      if (Charset.utf8 false).admits bs = true then some (Utf8.decodeLossy bs) else none := by
  unfold Json.decode?
  rw [h]
  rfl

theorem holdsContainer_text {s : String} :
    (Body.text s).HoldsContainer ↔ ReadsAsContainer s.toList := by
  unfold Body.HoldsContainer ReadsAsContainer readData
  simp only [orRefuse_eq_ok_iff]

theorem holdsContainer_bytes {bs : List UInt8} (h : Json.charset bs = .utf8 false) :
    (Body.bytes bs).HoldsContainer ↔
      (Charset.utf8 false).admits bs = true ∧ ReadsAsContainer (Utf8.decodeLossy bs) := by
  unfold Body.HoldsContainer ReadsAsContainer readData Json.readBytes
  simp only [orRefuse_eq_ok_iff, decode?_of_charset h]
  by_cases hadmits : (Charset.utf8 false).admits bs = true
  · simp [hadmits]
  · simp [hadmits]

/-- **What holds a list or a map is sorted as data, and is plain**, unless it is foreign. -/
theorem Body.HoldsContainer.form {body : Body} (h : body.HoldsContainer)
    (hforeign : ¬ body.IsForeign) : body.form = .data ∧ body.IsPlain := by
  cases body with
  | absent =>
      obtain ⟨data, hdata, _⟩ := h
      cases hdata
  | text s => exact form_of_readsAsContainer (holdsContainer_text.mp h)
  | bytes bs =>
      have hcharset : Json.charset bs = .utf8 false := not_not.mp hforeign
      obtain ⟨hadmits, hreads⟩ := (holdsContainer_bytes hcharset).mp h
      obtain ⟨hform, hends⟩ := form_of_readsAsContainer hreads
      exact ⟨hform, hcharset, hadmits, hends⟩

theorem Body.IsForeign.form {body : Body} (h : body.IsForeign) : body.form = .page := by
  cases body with
  | absent => cases h
  | text s => cases h
  | bytes bs => exact formOfText_of_charset h

/-- What is plain and sorted as data holds a list or a map. -/
theorem Body.IsPlain.holdsContainer {body : Body} (h : body.IsPlain) (hform : body.form = .data) :
    body.HoldsContainer := by
  cases body with
  | absent => cases hform
  | text s => exact holdsContainer_text.mpr (readsAsContainer_of_form hform h)
  | bytes bs =>
      obtain ⟨hcharset, hadmits, hends⟩ := h
      exact (holdsContainer_bytes hcharset).mpr ⟨hadmits, readsAsContainer_of_form hform hends⟩

/-- What is sorted as data but not plain cannot be read. -/
theorem readData_of_not_isPlain {body : Body} (hform : body.form = .data)
    (hplain : ¬ body.IsPlain) : readData body = .error unreadable := by
  cases body with
  | absent => cases hform
  | text s =>
      show readData.orRefuse (Json.read true s.toList) = _
      rw [read_of_form hform hplain]
      rfl
  | bytes bs =>
      by_cases hcharset : Json.charset bs = .utf8 false
      · show readData.orRefuse ((Json.decode? bs).bind (Json.read true)) = _
        rw [decode?_of_charset hcharset]
        split
        · next hadmits =>
          have hends : ¬ HasPlainEnds (Utf8.decodeLossy bs) := fun hends =>
            hplain ⟨hcharset, hadmits, hends⟩
          rw [Option.bind_some, read_of_form hform hends]
          rfl
        · rfl
      -- bytes in another encoding are taken for a page, so they are no data
      · have hpage : (Body.bytes bs).form = .page := Body.IsForeign.form hcharset
        rw [hpage] at hform
        cases hform

section

variable [Pattern.Library]

theorem dataReleases_ne_unreadable {extract : Quality.Extractor}
    (hextract : ∀ title, (extract title).outcome ≠ .error unreadable) (d : Definition)
    (indexer : String) (found : Data) :
    (dataReleases d indexer found extract).outcome ≠ .error unreadable := by
  intro h
  rcases dataReleases_error_iff.mp h with h | ⟨rows, _, h⟩
  · obtain ⟨row, _, hrow⟩ := h.exists_mem
    cases row with
    | map es =>
        obtain ⟨b, hb⟩ := RowRaises.exists_breakdown hrow fun _ _ h => by cases h
        cases hb
    | _ => cases hrow
  · obtain ⟨row, _, title, link, _, _, ht | ⟨_, htexts⟩⟩ := h.exists_mem
    · exact hextract title ht
    · obtain ⟨problems, hunfit⟩ := unfit_of_textsOf htexts
      cases hunfit

/-- Reading a plain answer that is sorted as data does not fail for want of data, whatever else it
may meet, unless the extractor fails like that by itself. -/
theorem ofBody_ne_unreadable {body : Body} (hplain : body.IsPlain) (hform : body.form = .data)
    {extract : Quality.Extractor} (hextract : ∀ title, (extract title).outcome ≠ .error unreadable)
    (d : Definition) (name : Option String) :
    (ofBody d body name extract).outcome ≠ .error unreadable := by
  obtain ⟨data, hdata, _⟩ := hplain.holdsContainer hform
  unfold ofBody ofData
  rw [hform, hdata]
  intro h
  -- The steps are the row selector, the path, and the rows behind the guard.
  rcases Run.outcome_bind_eq_error_iff.mp h with h | ⟨rowsAt, _, h⟩
  · obtain ⟨f, hf, hsame⟩ := mapError_eq_error_iff.mp h
    cases hsame
    unfold rowSelector at hf
    cases hrows : d.rowSelector with
    | none =>
        rw [hrows] at hf
        cases hf
    | some rowsAt =>
        rw [hrows] at hf
        cases hf
  · rw [Run.ofExcept_ok_bind] at h
    rcases Run.outcome_bind_eq_error_iff.mp h with h | ⟨found, _, h⟩
    · obtain ⟨f, hf, hsame⟩ := mapError_eq_error_iff.mp h
      cases hsame
      rcases navigate_error hf with hkind | hkind
      · cases hkind
      · cases hkind
    · rcases failure_of_guarded h with h | ⟨reason, hsame⟩
      · exact dataReleases_ne_unreadable hextract d _ found h
      · have hfirst := congrArg (fun f : Failure => f.message.toList.head?) hsame
        simp [Failure.search] at hfirst

/-- Reading an answer that is sorted as data but not plain fails as soon as the row selector is
known. -/
theorem ofBody_of_not_isPlain {body : Body} (hform : body.form = .data) (hplain : ¬ body.IsPlain)
    {d : Definition} {rowsAt : RowSelector} (hrows : d.rowSelector = some rowsAt)
    (name : Option String) (extract : Quality.Extractor) :
    (ofBody d body name extract).outcome = .error unreadable := by
  unfold ofBody ofData
  rw [hform, rowSelector_eq_ok hrows, readData_of_not_isPlain hform hplain]
  rfl

/-- **Sorting and reading an answer**: they agree on whatever is plain.  What is sorted as data but
not plain cannot be read, and that is the only way in which the reading is refused; what holds a
list or a map is taken for a page only if it is foreign. -/
theorem Body.sorted_as_read (body : Body) :
    (body.IsPlain → (body.form = .data ↔ body.HoldsContainer)) ∧
      (body.HoldsContainer → (body.form = .page ↔ body.IsForeign)) ∧
      (body.form = .data → ¬ body.IsPlain → readData body = .error unreadable) ∧
      (∀ d rowsAt name extract, body.form = .data → d.rowSelector = some rowsAt →
        (∀ title, (extract title).outcome ≠ .error unreadable) →
        ((ofBody d body name extract).outcome = .error unreadable ↔ ¬ body.IsPlain)) := by
  refine ⟨fun hplain => ⟨hplain.holdsContainer, fun holds => (holds.form ?_).1⟩,
    fun holds => ⟨fun hpage => ?_, Body.IsForeign.form⟩, readData_of_not_isPlain,
    fun d rowsAt name extract hform hrows hextract => ⟨fun h hplain => ?_, fun hplain => ?_⟩⟩
  · intro hforeign
    cases body with
    | absent => exact hforeign
    | text s => exact hforeign
    | bytes bs => exact hforeign hplain.1
  · by_contra hforeign
    rw [(holds.form hforeign).1] at hpage
    cases hpage
  · exact ofBody_ne_unreadable hplain hform hextract d name h
  · exact ofBody_of_not_isPlain hform hplain hrows name extract

end

open Pattern.Bare

/-- A plain list is sorted as data; the same list after a no-break space is sorted so as well, but
cannot be read, and after a mark it is taken for a page. -/
theorem Body.sorted_as_read_list :
    (Body.text " [1]\n").IsPlain ∧ (Body.text " [1]\n").form = .data ∧
      (ofBody sampleIndex (.text "\u00a0[1]") none Quality.standard).outcome = .error unreadable ∧
      (Body.bytes [0xef, 0xbb, 0xbf, 0x5b, 0x5d]).form = .page := by
  have hstandard : ∀ title, (Quality.standard title).outcome ≠ .error unreadable := by
    intro title h
    rw [Quality.standard_answers title] at h
    cases h
  have hplain : (Body.text " [1]\n").IsPlain := by decide +kernel
  refine ⟨hplain, ?_, ?_, ?_⟩
  · exact ((Body.text " [1]\n").sorted_as_read.1 hplain).mpr (by decide +kernel)
  · exact ((Body.text "\u00a0[1]").sorted_as_read.2.2.2 sampleIndex _ none Quality.standard
      (by decide +kernel) rfl hstandard).mpr (by decide +kernel)
  · exact ((Body.bytes [0xef, 0xbb, 0xbf, 0x5b, 0x5d]).sorted_as_read.2.1 (by decide +kernel)).mpr
      (by decide +kernel)

/-- Sorting and reading do not agree on everything: a byte that is not UTF-8 does not keep a map
from being sorted as data, and a mark keeps a list from it that can be read. -/
theorem Body.sorted_unlike_read :
    ((Body.bytes [0x7b, 0x22, 0x61, 0x22, 0x3a, 0x22, 0xff, 0x22, 0x7d]).form = .data ∧
        ¬ (Body.bytes [0x7b, 0x22, 0x61, 0x22, 0x3a, 0x22, 0xff, 0x22, 0x7d]).HoldsContainer) ∧
      (Body.bytes [0xef, 0xbb, 0xbf, 0x5b, 0x5d]).HoldsContainer ∧
      (Body.bytes [0xef, 0xbb, 0xbf, 0x5b, 0x5d]).form = .page := by
  decide +kernel

end ReleaseSearch.Results
