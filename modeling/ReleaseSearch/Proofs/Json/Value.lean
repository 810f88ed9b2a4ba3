import ReleaseSearch.Proofs.Json.Word

/-!
# Values of JSON

A list and a map are read in the same way: something opens them, their parts are separated, and
something closes them.  `opened?` and `goesOn?` are these two steps, and the readers of the format
are written with them here.

The main statements are that a value may be read out of its surroundings: the rest of a text is an
end of it, blanks after a text are left over, and a reader that may take twice as many steps as the
text is long takes as many as it needs.
-/

namespace ReleaseSearch.Json

open Text Decimal

variable {β γ : Type} {tail : List Char}

/-! ## Blanks before a part -/

theorem skip_endsIn (cs : List Char) : skip cs <:+ cs := List.dropWhile_suffix _

theorem skip_eq_nil_iff {cs : List Char} : skip cs = [] ↔ AreBlank cs := List.dropWhile_eq_nil_iff

theorem skip_append (htail : AreBlank tail) (cs : List Char) :
    skip (cs ++ tail) = if skip cs = [] then [] else skip cs ++ tail := by
  unfold skip
  rw [List.dropWhile_append]
  by_cases h : cs.dropWhile isBlank = []
  · rw [if_pos (List.isEmpty_iff.mpr h), if_pos h]
    exact skip_eq_nil_iff.mpr htail
  · rw [if_neg (mt List.isEmpty_iff.mp h), if_neg h]

/-! ## Lists and maps alike -/

/-- What was read, as part of something. -/
def within (f : β → γ) (found : Option (β × List Char)) : Option (γ × List Char) :=
  found.map fun found => (f found.1, found.2)

/-- After an opening, something closes at once or goes on to the first part. -/
def opened? (close : Char) (empty : β) (parts : List Char → Option (β × List Char))
    (cs : List Char) : Option (β × List Char) :=
  match cs with
  | [] => parts []
  | c :: rest => if c = close then some (empty, rest) else parts (c :: rest)

/-- After a part, something closes or goes on to the next part. -/
def goesOn? (close : Char) (last : β) (parts : List Char → Option (β × List Char))
    (cs : List Char) : Option (β × List Char) :=
  match cs with
  | [] => none
  | c :: rest =>
    if c = close then some (last, rest) else if c = ',' then parts (skip rest) else none

/-- A closing stands right before the rest. -/
def Closes (close : Char) (cs : List Char) (found : Option (β × List Char)) : Prop :=
  ∀ b rest, found = some (b, rest) → close :: rest <:+ cs

theorem Closes.endsIn {close : Char} {cs : List Char} {found : Option (β × List Char)}
    (h : Closes close cs found) : EndsIn cs found :=
  fun b rest hfound => (List.suffix_cons _ _).trans (h b rest hfound)

theorem Closes.of_endsIn {close : Char} {cs cs' : List Char} {found : Option (β × List Char)}
    (h : Closes close cs found) (hcs : cs <:+ cs') : Closes close cs' found :=
  fun b rest hfound => (h b rest hfound).trans hcs

theorem Closes.within {close : Char} {cs : List Char} {found : Option (β × List Char)}
    (h : Closes close cs found) (f : β → γ) : Closes close cs (within f found) := by
  intro c rest hfound
  obtain ⟨found', hfound', heq⟩ := Option.map_eq_some_iff.mp hfound
  cases heq
  exact h _ _ hfound'

theorem leaving_within (tail : List Char) (f : β → γ) (found : Option (β × List Char)) :
    leaving tail (within f found) = within f (leaving tail found) := by
  cases found <;> rfl

section Parts

variable {close : Char} {b : β} {parts parts' : List Char → Option (β × List Char)}

theorem opened?_closes (h : ∀ cs, Closes close cs (parts cs)) (cs : List Char) :
    Closes close cs (opened? close b parts cs) := by
  cases cs with
  | nil => exact h []
  | cons c rest =>
      unfold opened?
      by_cases hc : c = close
      · simp only [hc, if_true]
        rintro b' rest' heq
        cases heq
        exact List.suffix_rfl
      · simp only [hc, if_false]
        exact h (c :: rest)

theorem goesOn?_closes (h : ∀ cs, Closes close cs (parts cs)) (cs : List Char) :
    Closes close cs (goesOn? close b parts cs) := by
  cases cs with
  | nil =>
      intro b' rest heq
      cases heq
  | cons c rest =>
      unfold goesOn?
      by_cases hc : c = close
      · simp only [hc, if_true]
        rintro b' rest' heq
        cases heq
        exact List.suffix_rfl
      · simp only [hc, if_false]
        split
        · exact (h _).of_endsIn ((skip_endsIn rest).trans (List.suffix_cons _ _))
        · intro b' rest' heq
          cases heq

theorem opened?_append (htail : AreBlank tail) (hnil : parts [] = none)
    (h : ∀ cs, parts (cs ++ tail) = leaving tail (parts cs)) (cs : List Char) :
    opened? close b parts (skip (cs ++ tail)) = leaving tail (opened? close b parts (skip cs)) := by
  rw [skip_append htail]
  cases hskip : skip cs with
  | nil => simp [opened?, hnil, leaving]
  | cons c rest =>
      unfold opened?
      simp only [reduceCtorEq, if_false, List.cons_append]
      split
      · rfl
      · exact h (c :: rest)

theorem goesOn?_append (htail : AreBlank tail) (hnil : parts [] = none)
    (h : ∀ cs, parts (cs ++ tail) = leaving tail (parts cs)) (cs : List Char) :
    goesOn? close b parts (skip (cs ++ tail)) = leaving tail (goesOn? close b parts (skip cs)) := by
  rw [skip_append htail]
  cases hskip : skip cs with
  | nil => rfl
  | cons c rest =>
      unfold goesOn?
      simp only [reduceCtorEq, if_false, List.cons_append]
      split
      · rfl
      · split
        · rw [skip_append htail]
          split
          · next hrest => rw [hrest, hnil]; rfl
          · exact h _
        · rfl

/-- Only what is not longer than the text is read for its parts. -/
theorem opened?_congr {cs : List Char} (h : parts cs = parts' cs) :
    opened? close b parts cs = opened? close b parts' cs := by
  cases cs with
  | nil => exact h
  | cons c rest =>
      simp only [opened?, h]

theorem goesOn?_congr {cs : List Char}
    (h : ∀ cs', cs'.length < cs.length → parts cs' = parts' cs') :
    goesOn? close b parts cs = goesOn? close b parts' cs := by
  cases cs with
  | nil => rfl
  | cons c rest =>
      have hshorter : (skip rest).length < (c :: rest).length :=
        Nat.lt_succ_of_le (skip_endsIn rest).length_le
      simp only [goesOn?, h _ hshorter]

end Parts

/-! ## The readers -/

variable (limited : Bool) (n : Nat)

def afterItem? (item : Data) (cs : List Char) : Option (List Data × List Char) :=
  goesOn? ']' [item] (fun cs => within (item :: ·) (items? limited n cs)) (skip cs)

def afterValue? (key : String) (value : Data) (cs : List Char) : Option (Entries × List Char) :=
  goesOn? '\x7d' [(.text key, value)]
    (fun cs => within ((.text key, value) :: ·) (members? limited n cs)) (skip cs)

def afterKey? (key : String) (cs : List Char) : Option (Entries × List Char) :=
  match skip cs with
  | [] => none
  | c :: rest =>
    if c = ':' then
      (value? limited n (skip rest)).bind fun found => afterValue? limited n key found.1 found.2
    else none

theorem value?_quote (cs : List Char) :
    value? limited (n + 1) ('"' :: cs) = within .text (string? (cs.length + 1) [] cs) := rfl

theorem value?_list (cs : List Char) :
    value? limited (n + 1) ('[' :: cs) =
      opened? ']' (.list []) (fun cs => within .list (items? limited n cs)) (skip cs) := by
  conv_lhs => rw [value?]
  unfold opened?
  cases skip cs with
  | nil => rfl
  | cons c rest =>
      by_cases hc : c = ']'
      · subst hc
        rfl
      · simp only [hc, if_false]
        split
        · next heq =>
            cases heq
            exact absurd rfl hc
        · rfl

theorem value?_map (cs : List Char) :
    value? limited (n + 1) ('\x7b' :: cs) =
      opened? '\x7d' (.map []) (fun cs => within Data.ofEntries (members? limited n cs))
        (skip cs) := by
  conv_lhs => rw [value?]
  unfold opened?
  cases skip cs with
  | nil => rfl
  | cons c rest =>
      by_cases hc : c = '\x7d'
      · subst hc
        rfl
      · simp only [hc, if_false]
        split
        · next heq =>
            cases heq
            exact absurd rfl hc
        · rfl

/-- A value that is opened by nothing is a word or a number. -/
theorem value?_word {cs : List Char}
    (h : ∀ c, cs.head? = some c → c ≠ '"' ∧ c ≠ '[' ∧ c ≠ '\x7b') :
    value? limited (n + 1) cs = word? limited cs := by
  unfold value?
  split
  · exact absurd rfl (h _ rfl).1
  · exact absurd rfl (h _ rfl).2.1
  · exact absurd rfl (h _ rfl).2.2
  · rfl

theorem items?_succ (cs : List Char) :
    items? limited (n + 1) cs = (value? limited n cs).bind fun found =>
      afterItem? limited n found.1 found.2 := by
  conv_lhs => unfold items?
  cases value? limited n cs with
  | none => rfl
  | some found =>
      obtain ⟨item, rest⟩ := found
      simp only [Option.bind_eq_bind, Option.bind_some]
      -- after the item: a closing bracket, a comma and more items, or nothing
      unfold afterItem? goesOn?
      cases skip rest with
      | nil => rfl
      | cons c more =>
          by_cases hclose : c = ']'
          · subst hclose
            rfl
          · simp only [hclose, if_false]
            by_cases hcomma : c = ','
            · subst hcomma
              simp only [if_true]
              cases items? limited n (skip more) <;> rfl
            · simp only [hcomma, if_false]
              split
              -- the character is neither of those that the match accepts
              · next heq =>
                  cases heq
                  exact absurd rfl hclose
              · next heq =>
                  cases heq
                  exact absurd rfl hcomma
              · rfl

theorem members?_quote (cs : List Char) :
    members? limited (n + 1) ('"' :: cs) = (string? (cs.length + 1) [] cs).bind fun found =>
      afterKey? limited n found.1 found.2 := by
  conv_lhs => unfold members?
  simp only [Option.bind_eq_bind]
  -- Both sides go through the same steps: the key, the colon, the value, and what follows it. The
  -- left side matches on characters, so each step is split by the one that it waits for.
  cases string? (cs.length + 1) [] cs with
  | none => rfl
  | some found =>
      obtain ⟨key, rest⟩ := found
      simp only [Option.bind_some]
      unfold afterKey?
      cases skip rest with
      | nil => rfl
      | cons c more =>
          by_cases hcolon : c = ':'
          · subst hcolon
            simp only [if_true]
            cases value? limited n (skip more) with
            | none => rfl
            | some found =>
                obtain ⟨value, rest⟩ := found
                simp only [Option.bind_some]
                unfold afterValue? goesOn?
                cases skip rest with
                | nil => rfl
                | cons c more =>
                    by_cases hclose : c = '\x7d'
                    · subst hclose
                      rfl
                    -- no closing brace: then a comma and more members, or nothing
                    · simp only [hclose, if_false]
                      by_cases hcomma : c = ','
                      · subst hcomma
                        simp only [if_true]
                        cases members? limited n (skip more) <;> rfl
                      · simp only [hcomma, if_false]
                        split
                        -- the character is neither of those that the match accepts
                        · next heq =>
                            cases heq
                            exact absurd rfl hclose
                        · next heq =>
                            cases heq
                            exact absurd rfl hcomma
                        · rfl
          -- no colon: both sides fail
          · simp only [hcolon, if_false]
            split
            · next heq =>
                cases heq
                exact absurd rfl hcolon
            · rfl

theorem members?_of_ne {cs : List Char} (h : cs.head? ≠ some '"') :
    members? limited n cs = none := by
  cases n with
  | zero => rfl
  | succ n =>
      unfold members?
      split
      · exact absurd rfl h
      · rfl

/-- What a value may start with. -/
theorem start_cases (cs : List Char) :
    (∃ rest, cs = '"' :: rest) ∨ (∃ rest, cs = '[' :: rest) ∨ (∃ rest, cs = '\x7b' :: rest) ∨
      ∀ c, cs.head? = some c → c ≠ '"' ∧ c ≠ '[' ∧ c ≠ '\x7b' := by
  cases cs with
  | nil => simp
  | cons c cs =>
      by_cases hquote : c = '"'
      · exact .inl ⟨cs, by rw [hquote]⟩
      · by_cases hlist : c = '['
        · exact .inr (.inl ⟨cs, by rw [hlist]⟩)
        · by_cases hmap : c = '\x7b'
          · exact .inr (.inr (.inl ⟨cs, by rw [hmap]⟩))
          · refine .inr (.inr (.inr fun d hd => ?_))
            cases hd
            exact ⟨hquote, hlist, hmap⟩

theorem value?_nil : value? limited n [] = none := by
  cases n with
  | zero => rfl
  | succ n => rfl

theorem items?_nil : items? limited n [] = none := by
  cases n with
  | zero => rfl
  | succ n => rw [items?_succ, value?_nil]; rfl

/-! ## The rest of a text -/

section EndsIn

variable {limited : Bool} {n : Nat}

theorem afterItem?_closes (hitems : ∀ cs, Closes ']' cs (items? limited n cs)) (item : Data)
    (cs : List Char) : Closes ']' cs (afterItem? limited n item cs) :=
  (goesOn?_closes (fun cs => (hitems cs).within _) _).of_endsIn (skip_endsIn cs)

theorem afterValue?_closes (hmembers : ∀ cs, Closes '\x7d' cs (members? limited n cs))
    (key : String) (value : Data) (cs : List Char) :
    Closes '\x7d' cs (afterValue? limited n key value cs) :=
  (goesOn?_closes (fun cs => (hmembers cs).within _) _).of_endsIn (skip_endsIn cs)

theorem afterKey?_closes (hvalue : ∀ cs, EndsIn cs (value? limited n cs))
    (hmembers : ∀ cs, Closes '\x7d' cs (members? limited n cs)) (key : String) (cs : List Char) :
    Closes '\x7d' cs (afterKey? limited n key cs) := by
  intro entries rest h
  unfold afterKey? at h
  split at h
  · cases h
  · next c more hskip =>
      split at h
      · obtain ⟨found, hfound, h⟩ := Option.bind_eq_some_iff.mp h
        have hmore : more <:+ cs := (hskip ▸ List.suffix_cons c more).trans (skip_endsIn cs)
        exact (afterValue?_closes hmembers _ _ _ _ _ h).trans <| (hvalue _ _ _ hfound).trans <|
          (skip_endsIn more).trans hmore
      · cases h

end EndsIn

/-- **The rest is an end of the text**, and a closing stands before the rest of a list or of a
map. -/
theorem endsIn (n : Nat) :
    (∀ cs, EndsIn cs (value? limited n cs)) ∧ (∀ cs, Closes ']' cs (items? limited n cs)) ∧
      ∀ cs, Closes '\x7d' cs (members? limited n cs) := by
  induction n with
  | zero =>
      refine ⟨fun cs b rest h => ?_, fun cs b rest h => ?_, fun cs b rest h => ?_⟩
      all_goals cases h
  | succ n ih =>
      obtain ⟨hvalue, hitems, hmembers⟩ := ih
      refine ⟨fun cs => ?_, fun cs items rest h => ?_, fun cs entries rest h => ?_⟩
      · rcases start_cases cs with ⟨cs, rfl⟩ | ⟨cs, rfl⟩ | ⟨cs, rfl⟩ | h
        · intro b rest h
          rw [value?_quote] at h
          obtain ⟨found, hfound, heq⟩ := Option.map_eq_some_iff.mp h
          cases heq
          exact (string?_endsIn _ _ _ _ _ hfound).trans (List.suffix_cons _ _)
        · rw [value?_list]
          exact ((opened?_closes (fun cs => (hitems cs).within _) _).of_endsIn
            ((skip_endsIn cs).trans (List.suffix_cons _ _))).endsIn
        · rw [value?_map]
          exact ((opened?_closes (fun cs => (hmembers cs).within _) _).of_endsIn
            ((skip_endsIn cs).trans (List.suffix_cons _ _))).endsIn
        · rw [value?_word limited n h]
          exact word?_endsIn limited cs
      -- an item ends before what follows it, and that before the closing bracket
      · rw [items?_succ] at h
        obtain ⟨found, hfound, h⟩ := Option.bind_eq_some_iff.mp h
        exact (afterItem?_closes hitems _ _ _ _ h).trans (hvalue cs _ _ hfound)
      · by_cases hquote : cs.head? = some '"'
        · obtain ⟨cs, rfl⟩ := List.head?_eq_some_iff.mp hquote
          rw [members?_quote] at h
          obtain ⟨key, hkey, h⟩ := Option.bind_eq_some_iff.mp h
          exact (afterKey?_closes hvalue hmembers _ _ _ _ h).trans <|
            (string?_endsIn _ _ _ _ _ hkey).trans <| List.suffix_cons _ _
        · rw [members?_of_ne limited _ hquote] at h
          cases h

/-! ## Blanks after a text -/

section Append

variable {limited : Bool} {n : Nat}

theorem string?_length_append (htail : AreBlank tail) (cs : List Char) :
    string? ((cs ++ tail).length + 1) [] (cs ++ tail) =
      leaving tail (string? (cs.length + 1) [] cs) := by
  have hlength : cs.length < (cs ++ tail).length + 1 := by
    rw [List.length_append]
    omega
  rw [string?_append htail, string?_steps [] hlength (Nat.lt_succ_self _)]

theorem afterItem?_append (htail : AreBlank tail)
    (hitems : ∀ cs, items? limited n (cs ++ tail) = leaving tail (items? limited n cs))
    (item : Data) (cs : List Char) :
    afterItem? limited n item (cs ++ tail) = leaving tail (afterItem? limited n item cs) := by
  refine goesOn?_append htail ?_ (fun cs => ?_) cs
  · rw [items?_nil]
    rfl
  · rw [hitems, leaving_within]

theorem afterValue?_append (htail : AreBlank tail)
    (hmembers : ∀ cs, members? limited n (cs ++ tail) = leaving tail (members? limited n cs))
    (key : String) (value : Data) (cs : List Char) :
    afterValue? limited n key value (cs ++ tail) =
      leaving tail (afterValue? limited n key value cs) := by
  refine goesOn?_append htail ?_ (fun cs => ?_) cs
  · rw [members?_of_ne limited n (by simp)]
    rfl
  · rw [hmembers, leaving_within]

theorem afterKey?_append (htail : AreBlank tail)
    (hvalue : ∀ cs, value? limited n (cs ++ tail) = leaving tail (value? limited n cs))
    (hmembers : ∀ cs, members? limited n (cs ++ tail) = leaving tail (members? limited n cs))
    (key : String) (cs : List Char) :
    afterKey? limited n key (cs ++ tail) = leaving tail (afterKey? limited n key cs) := by
  unfold afterKey?
  rw [skip_append htail]
  cases skip cs with
  | nil => rfl
  | cons c more =>
      simp only [reduceCtorEq, if_false, List.cons_append]
      split
      · rw [skip_append htail]
        split
        · next hmore =>
            rw [hmore, value?_nil]
            rfl
        · rw [hvalue]
          cases value? limited n (skip more) with
          | none => rfl
          | some found => exact afterValue?_append htail hmembers _ _ _
      · rfl

end Append

/-- **Blanks after a text are left over.** -/
theorem append (htail : AreBlank tail) (n : Nat) :
    (∀ cs, value? limited n (cs ++ tail) = leaving tail (value? limited n cs)) ∧
    (∀ cs, items? limited n (cs ++ tail) = leaving tail (items? limited n cs)) ∧
      ∀ cs, members? limited n (cs ++ tail) = leaving tail (members? limited n cs) := by
  induction n with
  | zero => exact ⟨fun _ => rfl, fun _ => rfl, fun _ => rfl⟩
  | succ n ih =>
      obtain ⟨hvalue, hitems, hmembers⟩ := ih
      refine ⟨fun cs => ?_, fun cs => ?_, fun cs => ?_⟩
      · rcases start_cases cs with ⟨cs, rfl⟩ | ⟨cs, rfl⟩ | ⟨cs, rfl⟩ | h
        · rw [List.cons_append, value?_quote, value?_quote, string?_length_append htail,
            leaving_within]
        · rw [List.cons_append, value?_list, value?_list]
          refine opened?_append htail ?_ (fun cs => ?_) cs
          · rw [items?_nil]
            rfl
          · rw [hitems, leaving_within]
        · rw [List.cons_append, value?_map, value?_map]
          refine opened?_append htail ?_ (fun cs => ?_) cs
          · rw [members?_of_ne limited n (by simp)]
            rfl
          · rw [hmembers, leaving_within]
        -- a word; without one, what follows is the tail, and a blank starts nothing else either
        · rw [value?_word limited n h, value?_word limited n, word?_append htail]
          intro c hc
          cases cs with
          | cons d cs => exact h c hc
          | nil =>
              rcases isBlank_cases (htail c (List.mem_of_head? hc)) with rfl | rfl | rfl | rfl <;>
                decide
      · rw [items?_succ, items?_succ, hvalue]
        cases value? limited n cs with
        | none => rfl
        | some found => exact afterItem?_append htail hitems _ _
      · by_cases hquote : cs.head? = some '"'
        · obtain ⟨cs, rfl⟩ := List.head?_eq_some_iff.mp hquote
          rw [List.cons_append, members?_quote, members?_quote, string?_length_append htail]
          cases string? (cs.length + 1) [] cs with
          | none => rfl
          | some key => exact afterKey?_append htail hvalue hmembers _ _
        · rw [members?_of_ne limited _ hquote, members?_of_ne]
          · rfl
          · cases cs with
            | cons c cs => exact hquote
            | nil =>
                intro hhead
                -- the tail would have to start with a quote
                cases htail '"' (List.mem_of_head? hhead)

/-! ## Steps -/

section Steps

variable {limited : Bool} {n m : Nat} {cs : List Char}

theorem afterItem?_steps (item : Data)
    (hitems : ∀ cs', cs'.length < cs.length → items? limited n cs' = items? limited m cs') :
    afterItem? limited n item cs = afterItem? limited m item cs := by
  refine goesOn?_congr fun cs' hcs' => ?_
  rw [hitems cs' (hcs'.trans_le (skip_endsIn cs).length_le)]

theorem afterValue?_steps (key : String) (value : Data)
    (hmembers : ∀ cs', cs'.length < cs.length → members? limited n cs' = members? limited m cs') :
    afterValue? limited n key value cs = afterValue? limited m key value cs := by
  refine goesOn?_congr fun cs' hcs' => ?_
  rw [hmembers cs' (hcs'.trans_le (skip_endsIn cs).length_le)]

theorem afterKey?_steps (key : String)
    (hvalue : ∀ cs', cs'.length < cs.length → value? limited n cs' = value? limited m cs')
    (hmembers : ∀ cs', cs'.length < cs.length → members? limited n cs' = members? limited m cs') :
    afterKey? limited n key cs = afterKey? limited m key cs := by
  -- What is left only gets shorter, so the value and the members are read from less.
  have hskip := (skip_endsIn cs).length_le
  unfold afterKey?
  cases hcs : skip cs with
  | nil => rfl
  | cons c more =>
      rw [hcs, List.length_cons] at hskip
      have hmore := (skip_endsIn more).length_le
      simp only
      split
      · rw [hvalue _ (by omega)]
        cases hfound : value? limited m (skip more) with
        | none => rfl
        | some found =>
            have hrest := ((endsIn limited m).1 _ _ _ hfound).length_le
            exact afterValue?_steps key found.1 fun cs' hcs' => hmembers cs' (by omega)
      · rfl

end Steps

/-- **Twice as many steps as the text is long are enough**; more of them make no difference. -/
theorem steps (n : Nat) :
    (∀ cs m, 2 * cs.length + 1 ≤ n → 2 * cs.length + 1 ≤ m →
      value? limited n cs = value? limited m cs) ∧
    (∀ cs m, 2 * cs.length + 2 ≤ n → 2 * cs.length + 2 ≤ m →
      items? limited n cs = items? limited m cs) ∧
    ∀ cs m, 2 * cs.length + 2 ≤ n → 2 * cs.length + 2 ≤ m →
      members? limited n cs = members? limited m cs := by
  induction n with
  | zero => exact ⟨fun cs m hn => by omega, fun cs m hn => by omega, fun cs m hn => by omega⟩
  | succ n ih =>
      obtain ⟨hvalue, hitems, hmembers⟩ := ih
      -- A list or a map takes one step more than its parts, and its parts are shorter: two steps
      -- for each character are enough.
      refine ⟨fun cs m hn hm => ?_, fun cs m hn hm => ?_, fun cs m hn hm => ?_⟩
      all_goals obtain ⟨m, rfl⟩ := Nat.exists_eq_add_one_of_ne_zero (show m ≠ 0 by omega)
      · rcases start_cases cs with ⟨cs, rfl⟩ | ⟨cs, rfl⟩ | ⟨cs, rfl⟩ | h
        · rfl
        · have hskip := (skip_endsIn cs).length_le
          rw [List.length_cons] at hn hm
          rw [value?_list, value?_list]
          refine opened?_congr ?_
          rw [hitems _ m (by omega) (by omega)]
        · have hskip := (skip_endsIn cs).length_le
          rw [List.length_cons] at hn hm
          rw [value?_map, value?_map]
          refine opened?_congr ?_
          rw [hmembers _ m (by omega) (by omega)]
        · rw [value?_word limited n h, value?_word limited m h]
      · rw [items?_succ, items?_succ, hvalue cs m (by omega) (by omega)]
        cases hfound : value? limited m cs with
        | none => rfl
        | some found =>
            have hrest := ((endsIn limited m).1 _ _ _ hfound).length_le
            exact afterItem?_steps found.1 fun cs' hcs' => hitems cs' m (by omega) (by omega)
      · by_cases hquote : cs.head? = some '"'
        · obtain ⟨cs, rfl⟩ := List.head?_eq_some_iff.mp hquote
          rw [List.length_cons] at hn hm
          rw [members?_quote, members?_quote]
          cases hkey : string? (cs.length + 1) [] cs with
          | none => rfl
          | some key =>
              have hrest := (string?_endsIn _ _ _ _ _ hkey).length_le
              exact afterKey?_steps key.1 (fun cs' hcs' => hvalue cs' m (by omega) (by omega))
                fun cs' hcs' => hmembers cs' m (by omega) (by omega)
        · rw [members?_of_ne limited _ hquote, members?_of_ne limited _ hquote]

end ReleaseSearch.Json
