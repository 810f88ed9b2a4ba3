import Mathlib.Data.List.Infix
import Mathlib.Data.List.TakeWhile
import ReleaseSearch.Text.Blank

/-!
# What stripping leaves

Stripping takes the blanks from both ends of a text, and nothing else.
-/

namespace ReleaseSearch.Text

variable {p q : Char → Bool}

/-- The end of a text is dropped only up to a character that stays. -/
theorem dropEndWhile_append {c : Char} (h : p c = false) (front rest : List Char) :
    ∃ rest', dropEndWhile p (front ++ c :: rest) = front ++ c :: rest' := by
  unfold dropEndWhile
  rw [List.reverse_append, List.reverse_cons, List.append_assoc, List.dropWhile_append]
  split
  · exact ⟨[], by simp [h]⟩
  · exact ⟨(rest.reverse.dropWhile p).reverse, by simp⟩

/-- What is stripped off the front does not matter. -/
theorem stripBy_cons_of_pos {c : Char} (h : p c = true) (cs : List Char) :
    stripBy p (c :: cs) = stripBy p cs := by
  unfold stripBy
  rw [List.dropWhile_cons_of_pos h]

/-- What stands before a character that stays does so as well, if it begins with one. -/
theorem stripBy_append {b c : Char} (hb : p b = false) (hc : p c = false) (front rest : List Char) :
    ∃ rest', stripBy p (b :: front ++ c :: rest) = b :: front ++ c :: rest' := by
  unfold stripBy
  rw [List.cons_append, List.dropWhile_cons_of_neg (by simp [hb]), ← List.cons_append]
  exact dropEndWhile_append hc (b :: front) rest

theorem stripBy_cons {c : Char} (h : p c = false) (cs : List Char) :
    ∃ cs', stripBy p (c :: cs) = c :: cs' := by
  unfold stripBy
  rw [List.dropWhile_cons_of_neg (by simp [h])]
  exact dropEndWhile_append h [] cs

/-- Nothing is stripped off a text without blanks. -/
theorem stripBy_eq_self {cs : List Char} (h : ∀ c ∈ cs, p c = false) : stripBy p cs = cs := by
  have hdrop (ds : List Char) (hds : ∀ d ∈ ds, p d = false) : ds.dropWhile p = ds := by
    cases ds with
    | nil => rfl
    | cons d ds => exact List.dropWhile_cons_of_neg (by simp [hds d List.mem_cons_self])
  unfold stripBy dropEndWhile
  rw [hdrop cs h, hdrop _ fun c hc => h c (List.mem_reverse.mp hc), List.reverse_reverse]

theorem strip_eq_self {s : String} (h : ∀ c ∈ s.toList, isBlank c = false) : strip s = s := by
  unfold strip
  rw [stripBy_eq_self h, String.ofList_toList]

section Middle

variable {lead front tail : List Char} {b c : Char}

theorem takeWhile_lead (hlead : ∀ d ∈ lead, p d = true) (hb : p b = false) (rest : List Char) :
    (lead ++ b :: rest).takeWhile p = lead := by
  rw [List.takeWhile_append_of_pos hlead, List.takeWhile_cons_of_neg (by simp [hb]),
    List.append_nil]

/-- **Stripping leaves what stands between the first and the last character that stay.** -/
theorem stripBy_middle (hlead : ∀ d ∈ lead, p d = true) (hb : p b = false) (hc : p c = false)
    (htail : ∀ d ∈ tail, p d = true) :
    stripBy p (lead ++ (b :: front ++ [c]) ++ tail) = b :: front ++ [c] := by
  have hdrop : (lead ++ (b :: front ++ [c]) ++ tail).dropWhile p = b :: front ++ [c] ++ tail := by
    rw [List.append_assoc, List.dropWhile_append_of_pos hlead, List.cons_append, List.cons_append,
      List.dropWhile_cons_of_neg (by simp [hb])]
  have hreverse : (b :: front ++ [c] ++ tail).reverse =
      tail.reverse ++ c :: (b :: front).reverse := by
    simp
  unfold stripBy dropEndWhile
  rw [hdrop, hreverse, List.dropWhile_append_of_pos (by simpa using htail),
    List.dropWhile_cons_of_neg (by simp [hc]), List.reverse_cons, List.reverse_reverse]

end Middle

/-- **A text is what stripping leaves, between what it takes away**, unless it takes away all. -/
theorem eq_append_stripBy (cs : List Char) (h : stripBy p cs ≠ []) :
    cs = cs.takeWhile p ++ stripBy p cs ++ (cs.reverse.takeWhile p).reverse := by
  have hrest : (cs.dropWhile p).reverse.dropWhile p ≠ [] := by
    intro hnil
    unfold stripBy dropEndWhile at h
    rw [hnil] at h
    exact h rfl
  -- What is cut off at the end is the same before and after the front is cut off.
  have hreverse : cs.reverse.takeWhile p = (cs.dropWhile p).reverse.takeWhile p := by
    conv_lhs => rw [← List.takeWhile_append_dropWhile (p := p) (l := cs), List.reverse_append,
      List.takeWhile_append]
    refine if_neg fun hlength => hrest ?_
    have hall := (List.takeWhile_prefix p (l := (cs.dropWhile p).reverse)).eq_of_length hlength
    rw [← List.takeWhile_append_dropWhile (p := p) (l := (cs.dropWhile p).reverse)] at hall
    simpa using hall
  have hdropped : cs.dropWhile p =
      stripBy p cs ++ ((cs.dropWhile p).reverse.takeWhile p).reverse := by
    unfold stripBy dropEndWhile
    rw [← List.reverse_append, List.takeWhile_append_dropWhile, List.reverse_reverse]
  rw [hreverse, List.append_assoc, ← hdropped, List.takeWhile_append_dropWhile]

/-! ## What stays -/

/-- What begins with a character that stays occurs also when the front is dropped. -/
theorem infix_dropWhile {part cs : List Char} (hne : part ≠ []) (h : ∀ c ∈ part, p c = false)
    (hpart : part <:+: cs) : part <:+: cs.dropWhile p := by
  induction cs with
  | nil => exact hpart
  | cons c cs ih =>
      by_cases hc : p c = true
      · rw [List.dropWhile_cons_of_pos hc]
        rcases List.infix_cons_iff.mp hpart with hfirst | hlater
        · obtain ⟨d, part, rfl⟩ := List.exists_cons_of_ne_nil hne
          have hd : d = c := (List.cons_prefix_cons.mp hfirst).1
          have hstays := h d List.mem_cons_self
          rw [hd, hc] at hstays
          cases hstays
        · exact ih hlater
      · rwa [List.dropWhile_cons_of_neg hc]

theorem stripBy_part (p : Char → Bool) (cs : List Char) : stripBy p cs <:+: cs := by
  have hback : dropEndWhile p (cs.dropWhile p) <+: cs.dropWhile p := by
    unfold dropEndWhile
    rw [← List.reverse_suffix, List.reverse_reverse]
    exact List.dropWhile_suffix p
  exact hback.isInfix.trans (List.dropWhile_suffix p).isInfix

/-- **A part without blanks occurs in a text exactly if it does so when the text is stripped.** -/
theorem infix_stripBy_iff {part cs : List Char} (hne : part ≠ []) (h : ∀ c ∈ part, p c = false) :
    part <:+: stripBy p cs ↔ part <:+: cs := by
  constructor
  · exact fun hpart => hpart.trans (stripBy_part p cs)
  · intro hpart
    unfold stripBy dropEndWhile
    rw [← List.reverse_infix, List.reverse_reverse]
    refine infix_dropWhile (by simpa using hne) (by simpa using h) ?_
    exact List.reverse_infix.mpr (infix_dropWhile hne h hpart)

theorem filter_dropWhile (h : ∀ c, p c = true → q c = false) (cs : List Char) :
    (cs.dropWhile p).filter q = cs.filter q := by
  induction cs with
  | nil => rfl
  | cons c cs ih =>
      by_cases hc : p c = true
      · rw [List.dropWhile_cons_of_pos hc, ih, List.filter_cons_of_neg (by simp [h c hc])]
      · rw [List.dropWhile_cons_of_neg hc]

/-- Stripping leaves all characters of a kind to which no blank belongs. -/
theorem filter_stripBy (h : ∀ c, p c = true → q c = false) (cs : List Char) :
    (stripBy p cs).filter q = cs.filter q := by
  unfold stripBy dropEndWhile
  rw [List.filter_reverse, filter_dropWhile h, List.filter_reverse, List.reverse_reverse,
    filter_dropWhile h]

end ReleaseSearch.Text
