import ReleaseSearch.Proofs.Data.Wording
import ReleaseSearch.Proofs.Except
import ReleaseSearch.Proofs.Run
import ReleaseSearch.Proofs.Text.Pieces
import ReleaseSearch.Proofs.Text.Substring
import ReleaseSearch.Request.Basic

/-!
# Filling a template

A template is put together from pieces: plain texts, placeholders, and the form that asks for what
was typed.  It should be filled piece by piece.  What is done instead is to replace the placeholders
one after another in the whole text, so that what was put in for one of them is searched for the
next.

The main statement is that an input is filled piece by piece all the same, unless what comes out of
that looks as if it still had a placeholder in it.
-/

namespace ReleaseSearch

namespace Template

open Text

/-! ## Placeholders in a text -/

namespace Placeholder

/-- The characters of a placeholder after its two opening braces. -/
def rest (p : Placeholder) : List Char := p.written.toList.drop 2

theorem toList_written (p : Placeholder) : p.written.toList = '{' :: '{' :: p.rest := by
  cases p <;> decide +kernel

theorem not_mem_rest (p : Placeholder) : '{' ∉ p.rest := by
  cases p <;> decide +kernel

theorem rest_ne_nil (p : Placeholder) : p.rest ≠ [] := by
  cases p <;> decide +kernel

theorem not_mem_written (p : Placeholder) : '$' ∉ p.written.toList := by
  cases p <;> decide +kernel

theorem mem_all (p : Placeholder) : p ∈ all := by
  cases p <;> decide

/-- No placeholder is the start of another one. -/
theorem eq_of_start {p q : Placeholder} (h : p.written.toList <+: q.written.toList) : p = q := by
  have hall : ∀ p ∈ all, ∀ q ∈ all,
      p.written.toList.isPrefixOf q.written.toList = true → p = q := by decide +kernel
  exact hall p p.mem_all q q.mem_all (List.isPrefixOf_iff_prefix.mpr h)

theorem eq_of_prefix_append {p q : Placeholder} {rest : List Char}
    (h : p.written.toList <+: q.written.toList ++ rest) : p = q := by
  rcases List.prefix_or_prefix_of_prefix h (List.prefix_append _ _) with hpq | hqp
  · exact eq_of_start hpq
  · exact (eq_of_start hqp).symm

/-- A placeholder that starts before two opening braces is over before them. -/
theorem prefix_of_prefix_append {p : Placeholder} {front back : List Char} (hne : front ≠ [])
    (h : p.written.toList <+: front ++ '{' :: '{' :: back) : p.written.toList <+: front := by
  rcases List.prefix_or_prefix_of_prefix h (List.prefix_append front _) with hover | ⟨cut, hcut⟩
  · exact hover
  · rw [← hcut, List.prefix_append_right_inj] at h
    rw [toList_written] at hcut
    match cut, front, hne with
    | [], front, _ =>
        rw [toList_written, ← hcut, List.append_nil]
    | c :: cut, [b], _ =>
        -- the brace before the two would be the first one of the placeholder, and there were three
        obtain ⟨-, -, rfl⟩ : b = '{' ∧ c = '{' ∧ cut = p.rest := by simpa using hcut
        obtain ⟨d, rest, hrest⟩ := List.exists_cons_of_ne_nil p.rest_ne_nil
        obtain ⟨-, hd, -⟩ : c = '{' ∧ d = '{' ∧ rest <+: back := by simpa [hrest] using h
        exact absurd (hrest ▸ hd ▸ List.mem_cons_self) p.not_mem_rest
    | c :: cut, a :: b :: front, _ =>
        -- a brace would come after the first two of the placeholder
        obtain ⟨-, -, hrest⟩ : a = '{' ∧ b = '{' ∧ front ++ c :: cut = p.rest := by
          simpa using hcut
        have hc : c = '{' := (List.cons_prefix_cons.mp h).1
        exact absurd (hrest ▸ hc ▸ List.mem_append_right front List.mem_cons_self) p.not_mem_rest

/-- No placeholder starts in another one, whatever follows that. -/
theorem startsNotIn {p q : Placeholder} (hne : p ≠ q) (rest : List Char) :
    StartsNotIn p.written.toList q.written.toList rest := by
  intro tail htail hsuffix hstart
  rw [toList_written q, List.suffix_cons_iff, List.suffix_cons_iff] at hsuffix
  rcases hsuffix with rfl | rfl | hlater
  · exact hne (eq_of_prefix_append (toList_written q ▸ hstart))
  · obtain ⟨d, later, hlater⟩ := List.exists_cons_of_ne_nil q.rest_ne_nil
    obtain ⟨hd, -⟩ : '{' = d ∧ p.rest <+: later ++ rest := by
      simpa [toList_written, hlater] using hstart
    exact q.not_mem_rest (hlater ▸ hd ▸ List.mem_cons_self)
  · obtain ⟨d, tail, rfl⟩ := List.exists_cons_of_ne_nil htail
    obtain ⟨hd, -⟩ : '{' = d ∧ '{' :: p.rest <+: tail ++ rest := by
      simpa [toList_written] using hstart
    exact q.not_mem_rest (hlater.subset (hd ▸ List.mem_cons_self))

end Placeholder

/-- A text with no placeholder in it. -/
def Plain (s : String) : Prop := ∀ p : Placeholder, ¬ p.written.toList <:+: s.toList

/-! ## Pieces -/

/-- What a template is put together from. -/
inductive Piece where
  | text (s : String)
  | hole (p : Placeholder)
  /-- Asks for the query as it was typed. -/
  | typed

namespace Piece

def written : Piece → String
  | text s => s
  | hole p => p.written
  | typed => rawKeywords

def isText : Piece → Bool
  | text _ => true
  | hole _ | typed => false

def filled (words : Placeholder → String) : Piece → String
  | text s => s
  | hole p => words p
  | typed => words .keywords

end Piece

/-- The template that is put together from some pieces. -/
def written (pieces : List Piece) : String := String.join (pieces.map Piece.written)

/-- The pieces of a template, each with the words for what it asks for. -/
def filled (words : Placeholder → String) (pieces : List Piece) : String :=
  String.join (pieces.map (Piece.filled words))

theorem toList_written (pieces : List Piece) :
    (written pieces).toList = pieces.flatMap fun x => x.written.toList := by
  rw [written, String.toList_join, List.flatMap_map]

theorem toList_filled (words : Placeholder → String) (pieces : List Piece) :
    (filled words pieces).toList = pieces.flatMap fun x => (x.filled words).toList := by
  rw [filled, String.toList_join, List.flatMap_map]

/-! ## Replacing one placeholder after another -/

section Stages

variable {words : Placeholder → String} {pieces : List Piece}

namespace Piece

/-- A piece while some placeholders are still to be replaced. -/
def shown (words : Placeholder → String) (left : List Placeholder) : Piece → List Char
  | text s => s.toList
  | hole p => if p ∈ left then p.written.toList else (words p).toList
  | typed => (words .keywords).toList

/-- Whether a piece is a placeholder that is still to be replaced. -/
def isOpen (left : List Placeholder) : Piece → Bool
  | hole p => p ∈ left
  | _ => false

variable {left : List Placeholder} {x : Piece}

theorem shown_of_not_isOpen (h : ¬ x.isOpen left = true) :
    x.shown words left = (x.filled words).toList := by
  cases x with
  | text s => rfl
  | typed => rfl
  | hole p => exact if_neg (by simpa [isOpen] using h)

theorem exists_of_isOpen (words : Placeholder → String) (h : x.isOpen left = true) :
    ∃ p ∈ left, x = .hole p ∧ x.shown words left = p.written.toList := by
  cases x with
  | text s => cases h
  | typed => cases h
  | hole p =>
      have hp : p ∈ left := by simpa [isOpen] using h
      exact ⟨p, hp, rfl, if_pos hp⟩

/-- Replacing one placeholder changes no other piece. -/
theorem shown_cons_of_ne {p : Placeholder} (h : x ≠ .hole p) :
    x.shown words (p :: left) = x.shown words left := by
  cases x with
  | text s => rfl
  | typed => rfl
  | hole q =>
      have hne : q ≠ p := fun heq => h (heq ▸ rfl)
      simp [shown, hne]

end Piece

open Piece

theorem flatMap_shown_of_not_isOpen {left : List Placeholder}
    (h : ∀ x ∈ pieces, ¬ x.isOpen left = true) :
    pieces.flatMap (shown words left) = (filled words pieces).toList := by
  rw [toList_filled]
  exact List.flatMap_congr fun x hx => shown_of_not_isOpen (h x hx)

/-- No placeholder starts in a piece that is not one: it would be over before the next piece that is
one, and would be left in the end. -/
theorem startsNotIn_shown {p : Placeholder} {left : List Placeholder} {front back : List Piece}
    {x : Piece} (hplain : Plain (filled words (front ++ x :: back))) (hx : ¬ x.isOpen left = true) :
    StartsNotIn p.written.toList (x.shown words left) (back.flatMap (shown words left)) := by
  intro tail hne hsuffix hstart
  rw [shown_of_not_isOpen hx] at hsuffix
  -- up to the next open piece the text is already what comes out in the end
  have hstray {inner outer : List Piece} (hback : back = inner ++ outer)
      (hinner : ∀ y ∈ inner, ¬ y.isOpen left = true) :
      ¬ p.written.toList <+: tail ++ inner.flatMap (shown words left) := by
    rintro ⟨after, hafter⟩
    obtain ⟨before, hbefore⟩ := hsuffix
    rw [flatMap_shown_of_not_isOpen hinner] at hafter
    refine hplain p ⟨(filled words front).toList ++ before,
      after ++ (filled words outer).toList, ?_⟩
    rw [hback, toList_filled words (front ++ _), List.flatMap_append, List.flatMap_cons,
      List.flatMap_append, ← toList_filled, ← toList_filled, ← toList_filled, ← hbefore]
    simp only [List.append_assoc]
    rw [← List.append_assoc p.written.toList after, hafter, List.append_assoc]
  cases hfind : back.find? (·.isOpen left) with
  | none =>
      refine hstray (List.append_nil back).symm (fun y hy => ?_) hstart
      exact List.find?_eq_none.mp hfind y hy
  | some y =>
      obtain ⟨hopen, inner, outer, hback, hinner⟩ := List.find?_eq_some_iff_append.mp hfind
      obtain ⟨q, -, -, hshown⟩ := exists_of_isOpen words hopen
      rw [hback, List.flatMap_append, List.flatMap_cons, hshown, q.toList_written,
        ← List.append_assoc] at hstart
      exact hstray hback (fun y hy => by simpa using hinner y hy)
        (Placeholder.prefix_of_prefix_append (by simp [hne]) hstart)

/-- **Replacing one placeholder** fills the pieces that it is, and nothing else. -/
theorem replaceAll_shown {p : Placeholder} {left : List Placeholder} (hp : p ∉ left)
    (hplain : Plain (filled words pieces)) :
    replaceAll p.written.toList (words p).toList (pieces.flatMap (shown words (p :: left))) =
      pieces.flatMap (shown words left) := by
  refine replaceAll_flatMap (by simp [p.toList_written]) fun front x back hsplit => ?_
  -- a piece is this placeholder, one that stays for later, or no placeholder any more
  by_cases hx : x = .hole p
  · refine Or.inl ?_
    simp [hx, shown, hp]
  · refine Or.inr ⟨(shown_cons_of_ne hx).symm, ?_⟩
    by_cases hopen : x.isOpen (p :: left) = true
    · obtain ⟨q, -, rfl, hshown⟩ := exists_of_isOpen words hopen
      rw [hshown]
      exact Placeholder.startsNotIn (fun heq => hx (congrArg Piece.hole heq.symm)) _
    · exact startsNotIn_shown (hsplit ▸ hplain) hopen

/-- Replacing the placeholders one after another fills every piece, by induction on those that are
still to be replaced. -/
theorem foldl_replace {left : List Placeholder} (hleft : left.Nodup)
    (hplain : Plain (filled words pieces)) :
    left.foldl (fun s p => replace p.written (words p) s)
        (String.ofList (pieces.flatMap (shown words left))) = filled words pieces := by
  induction left with
  | nil =>
      rw [List.foldl_nil, flatMap_shown_of_not_isOpen, String.ofList_toList]
      intro x _
      cases x <;> simp [isOpen]
  | cons p left ih =>
      obtain ⟨hp, hleft⟩ := List.nodup_cons.mp hleft
      rw [List.foldl_cons, replace, String.toList_ofList, replaceAll_shown hp hplain]
      exact ih hleft

/-! ## What was typed -/

/-- A template for an input: the plain texts have no opening brace, and the form that asks for what
was typed is not made by a plain text and the placeholder after it. -/
structure IsInput (pieces : List Piece) : Prop where
  bare : ∀ s, .text s ∈ pieces → '{' ∉ s.toList
  apart : ∀ front back, pieces = front ++ .hole .keywords :: back →
    ¬ "$raw:".toList <:+ (written front).toList

theorem toList_rawKeywords :
    rawKeywords.toList = "$raw:".toList ++ Placeholder.keywords.written.toList := by
  rw [rawKeywords, keywords, String.toList_append]

/-- Where the form for what was typed is found across a border, a text with no opening brace ends
before its placeholder. -/
theorem eq_of_rawKeywords_append {front rest after : List Char} {c : Char} (hne : front ≠ [])
    (hbare : '{' ∉ front) (hc : c = '{' ∨ c = '$')
    (h : rawKeywords.toList ++ after = front ++ c :: rest) :
    front = "$raw:".toList ∧ Placeholder.keywords.written.toList ++ after = c :: rest := by
  rw [toList_rawKeywords, List.append_assoc, List.append_eq_append_iff] at h
  rcases h with ⟨cut, hfront, hrest⟩ | ⟨cut, hlead, hrest⟩
  · -- a longer text would have the brace of the form in it
    match cut with
    | [] => exact ⟨hfront.trans (List.append_nil _), hrest⟩
    | d :: cut =>
        obtain ⟨hd, -⟩ := List.cons_eq_cons.mp (Placeholder.keywords.toList_written ▸ hrest)
        exact absurd (hfront ▸ hd ▸ List.mem_append_right _ List.mem_cons_self) hbare
  · -- a shorter one would be followed by one of the letters of the form
    match cut with
    | [] => exact ⟨(hlead.trans (List.append_nil _)).symm, hrest.symm⟩
    | d :: cut =>
        obtain ⟨b, front, rfl⟩ := List.exists_cons_of_ne_nil hne
        have hraw : front ++ d :: cut = ['r', 'a', 'w', ':'] := (List.cons_eq_cons.mp hlead).2.symm
        have hd : d ∈ ['r', 'a', 'w', ':'] := hraw ▸ List.mem_append_right _ List.mem_cons_self
        rw [← (List.cons_eq_cons.mp hrest).1] at hd
        rcases hc with rfl | rfl <;> exact absurd hd (by decide)

/-- The form for what was typed starts in no plain text. -/
theorem startsNotIn_text {front back : List Piece} {s : String}
    (hpieces : IsInput (front ++ .text s :: back)) :
    StartsNotIn rawKeywords.toList s.toList (back.flatMap fun x => x.written.toList) := by
  rintro tail hne hsuffix ⟨after, hstart⟩
  have hbare {inner outer : List Piece} (hback : back = inner ++ outer)
      (hinner : ∀ y ∈ inner, y.isText = true) :
      '{' ∉ tail ++ (written inner).toList := by
    intro hmem
    rcases List.mem_append.mp hmem with htail | hmem
    · exact hpieces.bare s (by simp) (hsuffix.subset htail)
    · rw [toList_written] at hmem
      obtain ⟨y, hy, hmem⟩ := List.mem_flatMap.mp hmem
      cases y with
      | text s' => exact hpieces.bare s' (by simp [hback, hy]) hmem
      | _ => exact absurd (hinner _ hy) Bool.false_ne_true
  cases hfind : back.find? (fun y => !y.isText) with
  | none =>
      have hall (y : Piece) (hy : y ∈ back) : y.isText = true := by
        simpa using List.find?_eq_none.mp hfind y hy
      refine hbare (List.append_nil back).symm hall ?_
      rw [toList_written, ← hstart, toList_rawKeywords, Placeholder.toList_written]
      simp
  | some y =>
      -- the texts up to the next other piece are the start of the form, and end before its brace
      obtain ⟨htext, inner, outer, hback, hinner⟩ := List.find?_eq_some_iff_append.mp hfind
      have hbare := hbare hback fun y hy => by simpa using hinner y hy
      have hnonempty : tail ++ (written inner).toList ≠ [] := by simp [hne]
      rw [hback, List.flatMap_append, List.flatMap_cons, ← toList_written, ← toList_written,
        ← List.append_assoc] at hstart
      cases y with
      | text s' => exact absurd htext (by simp [Piece.isText])
      | typed =>
          rw [show Piece.typed.written.toList = '$' :: rawKeywords.toList.tail by decide +kernel]
            at hstart
          obtain ⟨-, hrest⟩ := eq_of_rawKeywords_append hnonempty hbare (Or.inr rfl) hstart
          rw [Placeholder.toList_written] at hrest
          exact absurd (List.cons_eq_cons.mp hrest).1 (by decide)
      | hole q =>
          rw [Piece.written, q.toList_written] at hstart
          obtain ⟨hlead, hrest⟩ := eq_of_rawKeywords_append hnonempty hbare (Or.inl rfl) hstart
          have hq : Placeholder.keywords = q :=
            Placeholder.eq_of_prefix_append ⟨after, by rw [hrest, q.toList_written]; rfl⟩
          refine hpieces.apart (front ++ .text s :: inner) outer (by simp [hback, hq]) ?_
          obtain ⟨before, hbefore⟩ := hsuffix
          refine ⟨(written front).toList ++ before, ?_⟩
          rw [← hlead, toList_written (front ++ _), List.flatMap_append, List.flatMap_cons,
            ← toList_written, ← toList_written, Piece.written, ← hbefore]
          simp only [List.append_assoc]

theorem replaceAll_rawKeywords (hpieces : IsInput pieces) :
    replaceAll rawKeywords.toList (words .keywords).toList (written pieces).toList =
      pieces.flatMap (shown words Placeholder.all) := by
  rw [toList_written]
  refine replaceAll_flatMap (by simp [toList_rawKeywords]) fun front x back hsplit => ?_
  cases x with
  | typed => exact Or.inl ⟨rfl, rfl⟩
  | text s => exact Or.inr ⟨rfl, startsNotIn_text (hsplit ▸ hpieces)⟩
  | hole p =>
      -- the form starts with a dollar sign, which no placeholder has
      refine Or.inr ⟨if_pos p.mem_all, ?_⟩
      intro tail hne hsuffix hstart
      obtain ⟨c, tail, rfl⟩ := List.exists_cons_of_ne_nil hne
      rw [toList_rawKeywords] at hstart
      have hc : '$' = c := (List.cons_prefix_cons.mp hstart).1
      exact p.not_mem_written (hsuffix.subset (hc ▸ List.mem_cons_self))

end Stages

/-! ## Filling -/

section Filling

variable {encode : Bool} {options : SearchOptions} {words : Placeholder → String}

/-- Where there are words for all placeholders, one after another is replaced by its words. -/
theorem fill_of_given (hwords : ∀ p, given (queryText encode options) options p = .ok (words p))
    (template : String) :
    fill encode options template =
      .ok (Placeholder.all.foldl (fun s p => replace p.written (words p) s)
        (if encode then template else replace rawKeywords options.query template)) := by
  have hall : Placeholder.all.mapM (fun p => do
      return (p, ← given (queryText encode options) options p)) =
      .ok (Placeholder.all.map fun p => (p, words p)) := by
    refine mapM_eq_ok_iff.mpr (List.forall₂_map_right_iff.mpr (List.forall₂_same.mpr ?_))
    intro p _
    rw [hwords p]
    rfl
  unfold fill
  rw [hall, Run.ok_bind, List.foldl_map]
  rfl

/-- In an input, the form for what was typed goes first. -/
theorem fill_input_of_given (hwords : ∀ p, given options.query options p = .ok (words p))
    (template : String) :
    fill false options template =
      .ok (Placeholder.all.foldl (fun s p => replace p.written (words p) s)
        (replace rawKeywords options.query template)) :=
  @fill_of_given false options words hwords template

theorem fill_written {pieces : List Piece}
    (hwords : ∀ p, given options.query options p = .ok (words p)) (hpieces : IsInput pieces)
    (hplain : Plain (filled words pieces)) :
    fill false options (written pieces) = .ok (filled words pieces) := by
  have hquery : options.query = words .keywords := Except.ok.inj (hwords .keywords)
  rw [fill_input_of_given hwords, replace, hquery, replaceAll_rawKeywords hpieces]
  exact congrArg Except.ok (foldl_replace (by decide) hplain)

/-- Where there are words for all placeholders, the parameters of a search can be made. -/
theorem exists_ofDefinition (hwords : ∀ p, given options.query options p = .ok (words p))
    (d : Definition) : ∃ params, RequestParams.ofDefinition d options = .ok params := by
  have hinput (input : Data) : ∃ value, RequestParams.fillInput options input = .ok value := by
    cases input with
    | text s => exact ⟨_, congrArg (Data.text <$> ·) (fill_input_of_given hwords s)⟩
    | _ => exact ⟨_, rfl⟩
  have hinputs : ∃ inputs, RequestParams.fillInputs options d.inputs = .ok inputs := by
    refine exists_mapM_ok_iff.mpr fun input _ => ?_
    obtain ⟨value, hvalue⟩ := hinput input.2
    exact ⟨_, congrArg ((input.1, ·) <$> ·) hvalue⟩
  obtain ⟨inputs, hinputs⟩ := hinputs
  unfold RequestParams.ofDefinition
  rw [hinputs]
  exact ⟨_, rfl⟩

end Filling

/-- Each parameter of a search is an input of the definition with its placeholders replaced. -/
theorem forall₂_of_ofDefinition {d : Definition} {options : SearchOptions} {params : RequestParams}
    (h : RequestParams.ofDefinition d options = .ok params) :
    List.Forall₂ (fun input param => ∃ value, RequestParams.fillInput options input.2 = .ok value ∧
      (input.1, value) = param) d.inputs params.inputs := by
  obtain ⟨inputs, hinputs, hparams⟩ := bind_eq_ok_iff.mp h
  cases hparams
  exact (mapM_eq_ok_iff.mp hinputs).imp fun _ _ => map_eq_ok_iff.mp

/-- The method is that of the path. -/
theorem method_of_ofDefinition {d : Definition} {options : SearchOptions} {params : RequestParams}
    {path : SearchPath} (h : RequestParams.ofDefinition d options = .ok params)
    (hpath : d.searchPath options = .ok path) : params.method = path.method := by
  obtain ⟨inputs, _, hparams⟩ := bind_eq_ok_iff.mp h
  cases hparams
  rw [hpath]
  rfl

/-- **An input is filled piece by piece**, and what was typed is put in as it is, unless what comes
out of that looks as if it had a placeholder in it. -/
theorem inputs_filled {d : Definition} {options : SearchOptions} {words : Placeholder → String}
    {pieces : List Piece} {i : Nat} {name : String}
    (hwords : ∀ p, given options.query options p = .ok (words p)) (hpieces : IsInput pieces)
    (hinput : d.inputs[i]? = some (name, .text (written pieces)))
    (hplain : Plain (filled words pieces)) :
    ∃ params, RequestParams.ofDefinition d options = .ok params ∧
      params.inputs[i]? = some (name, .text (filled words pieces)) := by
  obtain ⟨params, hparams⟩ := exists_ofDefinition hwords d
  obtain ⟨_, hparam, value, hvalue, rfl⟩ :=
    exists_getElem?_of_forall₂ (forall₂_of_ofDefinition hparams) hinput
  rw [RequestParams.fillInput, fill_written hwords hpieces hplain] at hvalue
  cases hvalue
  exact ⟨params, hparams, hparam⟩

def oneInput (pieces : List Piece) : Definition where
  id := "sample"
  inputs := [("q", .text (written pieces))]

def secondSeason (query : String) : SearchOptions := { query := query, season := some 2 }

def secondSeasonWords (query : String) : Placeholder → String
  | .keywords | .series => query
  | .season => "2"
  | _ => ""

theorem given_secondSeason (query : String) (p : Placeholder) :
    given (secondSeason query).query (secondSeason query) p =
      .ok (secondSeasonWords query p) := by
  have hwritable : (Data.int 2).isWritable = true := Data.isWritable_int 1 (by decide) (by decide)
  have htwo : (Data.int 2).inWords = .ok "2" := by
    rw [Data.inWords, if_pos hwritable]
    rfl
  cases p with
  | season => simpa [given, numberWords, secondSeason, secondSeasonWords] using htwo
  | _ => rfl

/-- Braces that make no placeholder are put in as they are. -/
theorem inputs_filled_braces :
    ∃ params, RequestParams.ofDefinition
        (oneInput [.typed, .text " S", .hole .season, .text "$raw:"])
        (secondSeason "\x7b\x7b .Query.Season") = .ok params ∧
      params.inputs[0]? = some ("q", .text "\x7b\x7b .Query.Season S2$raw:") := by
  have hpieces : IsInput [.typed, .text " S", .hole .season, .text "$raw:"] := by
    constructor
    · intro s hs
      have hs : s = " S" ∨ s = "$raw:" := by simpa using hs
      rcases hs with rfl | rfl <;> decide +kernel
    · intro front back hsplit
      have hmem : Piece.hole .keywords ∈ [.typed, .text " S", .hole .season, .text "$raw:"] :=
        hsplit ▸ List.mem_append_right front List.mem_cons_self
      simp at hmem
  have hplain : Plain (filled (secondSeasonWords "\x7b\x7b .Query.Season")
      [.typed, .text " S", .hole .season, .text "$raw:"]) := by
    intro p
    cases p <;> decide +kernel
  have hinput : (oneInput [.typed, .text " S", .hole .season, .text "$raw:"]).inputs[0]? =
      some ("q", .text (written [.typed, .text " S", .hole .season, .text "$raw:"])) := rfl
  obtain ⟨params, hparams, hfilled⟩ := inputs_filled
    (given_secondSeason "\x7b\x7b .Query.Season") hpieces hinput hplain
  refine ⟨params, hparams, hfilled.trans ?_⟩
  exact congrArg (fun text => some ("q", Data.text text)) (by decide +kernel)

/-- A placeholder that was typed is filled as well. -/
theorem inputs_filled_typed :
    let query : String := Placeholder.season.written
    (∀ p, given query (secondSeason query) p = .ok (secondSeasonWords query p)) ∧
      IsInput [.hole .keywords] ∧
      (∃ params, RequestParams.ofDefinition (oneInput [.hole .keywords]) (secondSeason query) =
          .ok params ∧ params.inputs[0]? = some ("q", .text "2")) ∧
      "2" ≠ filled (secondSeasonWords query) [.hole .keywords] := by
  have hfill : fill false (secondSeason Placeholder.season.written) (written [.hole .keywords]) =
      .ok "2" := by
    rw [fill_input_of_given (given_secondSeason Placeholder.season.written)]
    exact congrArg Except.ok (by decide +kernel)
  obtain ⟨params, hparams⟩ := exists_ofDefinition
    (given_secondSeason Placeholder.season.written) (oneInput [.hole .keywords])
  refine ⟨given_secondSeason _, ⟨?bare, ?apart⟩, ⟨params, hparams, ?filled⟩, by decide +kernel⟩
  case bare => simp
  case apart =>
    intro front back hsplit
    -- the input is one hole: nothing stands before it
    obtain rfl : front = [] := by cases front <;> simp_all
    decide +kernel
  case filled =>
    obtain ⟨_, hparam, value, hvalue, rfl⟩ := exists_getElem?_of_forall₂
      (forall₂_of_ofDefinition hparams)
      (show (oneInput [.hole .keywords]).inputs[0]? = some ("q", _) from rfl)
    rw [RequestParams.fillInput, hfill] at hvalue
    cases hvalue
    exact hparam

end Template

end ReleaseSearch
