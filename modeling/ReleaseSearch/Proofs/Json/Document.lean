import ReleaseSearch.Proofs.Json.Value

/-!
# Documents of JSON

A document is one value between blanks.  The main statements are that blanks around a document make
no difference to what is read, and that a document is a list or a map exactly if it begins with a
bracket, and then it ends with one as well.
-/

namespace ReleaseSearch

open Text Decimal

def Data.isContainer : Data → Bool
  | .list _ | .map _ => true
  | _ => false

namespace Json

variable {limited : Bool} {cs : List Char} {d : Data}

/-! ## Blanks around a document -/

theorem read_eq_some_iff :
    read limited cs = some d ↔
      ∃ rest, value? limited (2 * cs.length + 2) (skip cs) = some (d, rest) ∧ AreBlank rest := by
  unfold read
  simp only [Option.bind_eq_bind, Option.bind_eq_some_iff]
  constructor
  · rintro ⟨found, hfound, h⟩
    split at h
    · next hrest =>
        cases h
        exact ⟨found.2, hfound, skip_eq_nil_iff.mp (List.isEmpty_iff.mp hrest)⟩
    · cases h
  · rintro ⟨rest, hfound, hrest⟩
    exact ⟨(d, rest), hfound, if_pos (List.isEmpty_iff.mpr (skip_eq_nil_iff.mpr hrest))⟩

theorem skip_append_of_areBlank {lead : List Char} (hlead : AreBlank lead) (cs : List Char) :
    skip (lead ++ cs) = skip cs := by
  unfold skip
  rw [List.dropWhile_append]
  have hnil : lead.dropWhile isBlank = [] := skip_eq_nil_iff.mpr hlead
  rw [if_pos (List.isEmpty_iff.mpr hnil)]

/-- **Blanks around a document make no difference.** -/
theorem read_between_blanks {lead tail : List Char} (hlead : AreBlank lead) (htail : AreBlank tail)
    (cs : List Char) : read limited (lead ++ cs ++ tail) = read limited cs := by
  -- The longer text has more steps than it needs.
  have hsteps : value? limited (2 * (lead ++ cs ++ tail).length + 2) (skip cs) =
      value? limited (2 * cs.length + 2) (skip cs) := by
    have hskip := (skip_endsIn cs).length_le
    refine (steps limited _).1 _ _ ?_ ?_
    · simp only [List.length_append]
      omega
    · omega
  refine Option.ext fun d => ?_
  rw [read_eq_some_iff, read_eq_some_iff, List.append_assoc, skip_append_of_areBlank hlead,
    ← List.append_assoc, skip_append htail]
  by_cases hcs : skip cs = []
  · simp [hcs, value?_nil]
  · rw [if_neg hcs, (append limited htail _).1, hsteps]
    constructor
    · rintro ⟨rest, h, hrest⟩
      obtain ⟨found, hfound, heq⟩ := Option.map_eq_some_iff.mp h
      cases heq
      exact ⟨found.2, hfound, fun c hc => hrest c (List.mem_append_left _ hc)⟩
    · rintro ⟨rest, h, hrest⟩
      refine ⟨rest ++ tail, by rw [h]; rfl, fun c hc => ?_⟩
      exact (List.mem_append.mp hc).elim (hrest c) (htail c)

/-! ## Lists and maps -/

def IsOpening (c : Char) : Prop := c = '[' ∨ c = '\x7b'

def IsClosing (c : Char) : Prop := c = ']' ∨ c = '\x7d'

instance (c : Char) : Decidable (IsOpening c) := inferInstanceAs (Decidable (c = '[' ∨ c = '\x7b'))

instance (c : Char) : Decidable (IsClosing c) := inferInstanceAs (Decidable (c = ']' ∨ c = '\x7d'))

theorem skip_of_opening {c : Char} (hc : IsOpening c) (cs : List Char) :
    skip (c :: cs) = c :: cs := by
  have hblank : isBlank c = false := by rcases hc with rfl | rfl <;> rfl
  simp [skip, hblank]

theorem opened?_value {β : Type} {close : Char} {b b' : β}
    {parts : List Char → Option (β × List Char)} {cs rest : List Char}
    (h : opened? close b parts cs = some (b', rest)) :
    b' = b ∨ ∃ cs', parts cs' = some (b', rest) := by
  cases cs with
  | nil => exact .inr ⟨[], h⟩
  | cons c cs =>
      unfold opened? at h
      simp only at h
      split at h
      · cases h
        exact .inl rfl
      · exact .inr ⟨_, h⟩

/-- What begins with a bracket is a list or a map, and a bracket stands before the rest. -/
theorem value?_of_opening {n : Nat} {c : Char} {rest : List Char} (hc : IsOpening c)
    (h : value? limited n (c :: cs) = some (d, rest)) :
    d.isContainer = true ∧ ∃ close, IsClosing close ∧ close :: rest <:+ cs := by
  cases n with
  | zero => cases h
  | succ n =>
      rcases hc with rfl | rfl
      · rw [value?_list] at h
        -- The closing bracket is the last that is read, so it still stands among what was given.
        have hclose := opened?_closes (fun cs => ((endsIn limited n).2.1 cs).within Data.list)
          _ _ _ h
        refine ⟨?_, ']', .inl rfl, hclose.trans (skip_endsIn cs)⟩
        rcases opened?_value h with rfl | ⟨cs', hparts⟩
        · rfl
        · obtain ⟨found, _, heq⟩ := Option.map_eq_some_iff.mp hparts
          cases heq
          rfl
      · rw [value?_map] at h
        have hclose := opened?_closes (fun cs => ((endsIn limited n).2.2 cs).within Data.ofEntries)
          _ _ _ h
        refine ⟨?_, '\x7d', .inr rfl, hclose.trans (skip_endsIn cs)⟩
        rcases opened?_value h with rfl | ⟨cs', hparts⟩
        · rfl
        · obtain ⟨found, _, heq⟩ := Option.map_eq_some_iff.mp hparts
          cases heq
          rfl

theorem isContainer_of_word? {rest : List Char} (h : word? limited cs = some (d, rest)) :
    d.isContainer = false := by
  rw [word?_eq] at h
  rcases Option.or_eq_some_iff.mp h with h | ⟨_, h⟩
  -- one of the known words
  · obtain ⟨w, hw, h⟩ := List.exists_of_findSome?_eq_some h
    obtain ⟨rest', _, heq⟩ := Option.map_eq_some_iff.mp h
    cases heq
    have hwords : ∀ w ∈ words, w.2.isContainer = false := by
      simp [words, Data.isContainer]
    exact hwords w hw
  -- a number, in one of two forms
  · rw [number?_eq] at h
    simp only at h
    split at h
    · cases h
    · split at h
      · split at h
        · cases h
        · cases h
          rfl
      · obtain ⟨x, _, heq⟩ := Option.map_eq_some_iff.mp h
        cases heq
        rfl

/-- A list or a map begins with a bracket. -/
theorem value?_container {n : Nat} {rest : List Char} (hd : d.isContainer = true)
    (h : value? limited n cs = some (d, rest)) : ∃ c cs', cs = c :: cs' ∧ IsOpening c := by
  cases n with
  | zero => cases h
  | succ n =>
      rcases start_cases cs with ⟨cs', rfl⟩ | ⟨cs', rfl⟩ | ⟨cs', rfl⟩ | hstart
      · rw [value?_quote] at h
        obtain ⟨found, _, heq⟩ := Option.map_eq_some_iff.mp h
        cases heq
        cases hd
      · exact ⟨'[', cs', rfl, .inl rfl⟩
      · exact ⟨'\x7b', cs', rfl, .inr rfl⟩
      · rw [value?_word limited n hstart] at h
        rw [isContainer_of_word? h] at hd
        cases hd

/-- **A document that is a list or a map stands between two brackets**, and outside of them there
are only blanks. -/
theorem exists_brackets_of_read (h : read limited cs = some d) (hd : d.isContainer = true) :
    ∃ lead c middle close tail, cs = lead ++ (c :: middle ++ [close]) ++ tail ∧
      AreBlank lead ∧ IsOpening c ∧ IsClosing close ∧ AreBlank tail := by
  obtain ⟨tail, hvalue, htail⟩ := read_eq_some_iff.mp h
  obtain ⟨c, cs', hcs', hc⟩ := value?_container hd hvalue
  rw [hcs'] at hvalue
  obtain ⟨_, close, hclose, middle, hmiddle⟩ := value?_of_opening hc hvalue
  refine ⟨cs.takeWhile isBlank, c, middle, close, tail, ?_, ?_, hc, hclose, htail⟩
  · have hskip : cs.dropWhile isBlank = c :: (middle ++ close :: tail) := by
      rw [hmiddle]
      exact hcs'
    conv_lhs => rw [← List.takeWhile_append_dropWhile (p := isBlank) (l := cs), hskip]
    simp
  · exact fun b hb => List.mem_takeWhile_imp hb

/-- A document that begins with a bracket is a list or a map. -/
theorem isContainer_of_read {c : Char} {cs' : List Char} (h : read limited cs = some d)
    (hcs : skip cs = c :: cs') (hc : IsOpening c) : d.isContainer = true := by
  obtain ⟨rest, hvalue, _⟩ := read_eq_some_iff.mp h
  rw [hcs] at hvalue
  exact (value?_of_opening hc hvalue).1

/-- No value begins with a character like this one. -/
def StartsNothing (c : Char) : Prop :=
  c ≠ '"' ∧ c ≠ '[' ∧ c ≠ '\x7b' ∧ c ≠ '-' ∧ isAsciiDigit c = false ∧
    ∀ w ∈ words, w.1.toList.head? ≠ some c

/-- Where no value begins, none is read. -/
theorem value?_of_startsNothing {c : Char} (hc : StartsNothing c) (n : Nat) (cs : List Char) :
    value? limited n (c :: cs) = none := by
  obtain ⟨hquote, hlist, hmap, hsign, hdigit, hwords⟩ := hc
  cases n with
  | zero => rfl
  | succ n =>
      -- no number: there is no sign and no digit
      have hnumber : number? limited (c :: cs) = none := by
        have hzero : c ≠ '0' := by
          rintro rfl
          cases hdigit
        have hsigned : signed (c :: cs) = (false, c :: cs) := by simp [signed, hsign]
        have hwhole : wholePart (c :: cs) = [] := by simp [wholePart, hzero, hdigit]
        rw [number?_eq, hsigned]
        simp only [hwhole]
        rfl
      -- no word: each of them starts with another character
      have hword : anyWord? words (c :: cs) = none := by
        refine List.findSome?_eq_none_iff.mpr fun w hw => ?_
        have hfirst := hwords w hw
        cases hchars : w.1.toList with
        | nil =>
            have hfilled : ∀ w ∈ words, w.1.toList ≠ [] := by decide
            exact absurd hchars (hfilled w hw)
        | cons p word =>
            rw [hchars] at hfirst
            have hne : p ≠ c := fun h => hfirst (congrArg some h)
            simp [dropStart?, hne]
      rw [value?_word limited n fun b hb => by cases hb; exact ⟨hquote, hlist, hmap⟩, word?_eq,
        hword, hnumber]
      rfl

/-- After an opening bracket something has to begin, or the bracket is closed. -/
theorem read_of_opening_startsNothing {b c : Char} (hb : IsOpening b) (hc : StartsNothing c)
    (hblank : isBlank c = false) (hclose : ¬ IsClosing c) (cs : List Char) :
    read limited (b :: c :: cs) = none := by
  have hskip : skip (c :: cs) = c :: cs := by simp [skip, hblank]
  have hitems (n : Nat) : items? limited n (c :: cs) = none := by
    cases n with
    | zero => rfl
    | succ n =>
        rw [items?_succ, value?_of_startsNothing hc]
        rfl
  have hmembers (n : Nat) : members? limited n (c :: cs) = none :=
    members?_of_ne limited n (by simpa using hc.1)
  -- Behind the bracket neither its end nor a first item can be read.
  have hnone (n : Nat) : value? limited n (b :: c :: cs) = none := by
    cases n with
    | zero => rfl
    | succ n =>
        rcases hb with rfl | rfl
        · rw [value?_list, hskip, opened?, if_neg fun h => hclose (.inl h), hitems]
          rfl
        · rw [value?_map, hskip, opened?, if_neg fun h => hclose (.inr h), hmembers]
          rfl
  unfold read
  rw [skip_of_opening hb, hnone]
  rfl

end Json

end ReleaseSearch
