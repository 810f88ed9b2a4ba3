import Mathlib.Data.List.Infix
import ReleaseSearch.Text.Substring

/-!
# Replacing piece by piece

A text that is put together from pieces is searched from left to right, across the borders of the
pieces.  Replacing goes piece by piece all the same if each piece is either the old text itself or
one in which no occurrence of it starts; this is the main statement.
-/

namespace ReleaseSearch.Text

theorem occursIn_iff {part cs : List Char} : occursIn part cs = true ↔ part <:+: cs := by
  induction cs with
  | nil => rw [occursIn, List.isEmpty_iff, List.infix_nil]
  | cons c cs ih =>
      rw [occursIn, Bool.or_eq_true, List.isPrefixOf_iff_prefix, ih, List.infix_cons_iff]

/-- What occurs in a text, but does not hold some character of it, is on one side of that. -/
theorem infix_append_cons_iff {part front back : List Char} {c : Char} (h : c ∉ part) :
    part <:+: front ++ c :: back ↔ part <:+: front ∨ part <:+: back := by
  have hnil {start : List Char} (hstart : start <+: c :: back) (hc : c ∉ start) : start = [] := by
    cases start with
    | nil => rfl
    | cons d start => exact absurd ((List.cons_prefix_cons.mp hstart).1 ▸ List.mem_cons_self) hc
  constructor
  · intro hpart
    rcases List.infix_append_iff.mp hpart with
      hfront | hback | ⟨before, after, rfl, hbefore, hafter⟩
    · exact .inl hfront
    · rcases List.infix_cons_iff.mp hback with hfirst | hback
      · exact .inl (hnil hfirst h ▸ List.nil_infix)
      · exact .inr hback
    -- a part across the mark would hold it
    · rw [hnil hafter fun hc => h (List.mem_append_right before hc), List.append_nil]
      exact .inl hbefore.isInfix
  · rintro (hfront | hback)
    · exact hfront.trans (List.prefix_append front (c :: back)).isInfix
    · exact hback.trans ((List.suffix_cons c back).trans (List.suffix_append front _)).isInfix

variable {old new : List Char}

/-- No occurrence of a text starts in the first of two parts, not even one that ends in the
second. -/
def StartsNotIn (old cs rest : List Char) : Prop :=
  ∀ tail, tail ≠ [] → tail <:+ cs → ¬ old <+: tail ++ rest

/-- Characters that an occurrence has used are passed over. -/
theorem replaceFrom_length (used rest : List Char) :
    replaceFrom old new used.length (used ++ rest) = replaceFrom old new 0 rest := by
  induction used with
  | nil => rfl
  | cons c used ih => exact ih

theorem replaceFrom_old (h : old ≠ []) (rest : List Char) :
    replaceFrom old new 0 (old ++ rest) = new ++ replaceFrom old new 0 rest := by
  obtain ⟨c, used, rfl⟩ := List.exists_cons_of_ne_nil h
  have hstart : (c :: used).isPrefixOf (c :: (used ++ rest)) = true :=
    List.isPrefixOf_iff_prefix.mpr ⟨rest, rfl⟩
  have hlength : (c :: used).length - 1 = used.length := rfl
  rw [List.cons_append, replaceFrom, if_pos hstart, hlength, replaceFrom_length]

theorem replaceFrom_append {cs rest : List Char} (h : StartsNotIn old cs rest) :
    replaceFrom old new 0 (cs ++ rest) = cs ++ replaceFrom old new 0 rest := by
  induction cs with
  | nil => rfl
  | cons c cs ih =>
      have hstart : ¬ old.isPrefixOf (c :: (cs ++ rest)) = true := fun hold =>
        h (c :: cs) (List.cons_ne_nil c cs) List.suffix_rfl (List.isPrefixOf_iff_prefix.mp hold)
      have hrest : StartsNotIn old cs rest := fun tail hne htail =>
        h tail hne (htail.trans (List.suffix_cons c cs))
      rw [List.cons_append, replaceFrom, if_neg hstart, ih hrest, List.cons_append]

/-- **Replacing goes piece by piece.** -/
theorem replaceAll_flatMap {α : Type} {before after : α → List Char} {pieces : List α}
    (hold : old ≠ [])
    (h : ∀ front x back, pieces = front ++ x :: back →
      (before x = old ∧ after x = new) ∨
        (after x = before x ∧ StartsNotIn old (before x) (back.flatMap before))) :
    replaceAll old new (pieces.flatMap before) = pieces.flatMap after := by
  have hempty : old.isEmpty = false := by simpa using hold
  rw [replaceAll, hempty, if_neg Bool.false_ne_true]
  induction pieces with
  | nil => rfl
  | cons x pieces ih =>
      -- what is said of a piece is about the pieces after it, so it holds within the rest as well
      have hrest := ih fun front y back hsplit => h (x :: front) y back (hsplit ▸ rfl)
      rw [List.flatMap_cons, List.flatMap_cons]
      rcases h [] x pieces rfl with ⟨hbefore, hafter⟩ | ⟨hafter, hstart⟩
      · rw [hbefore, hafter, replaceFrom_old hold, hrest]
      · rw [hafter, replaceFrom_append hstart, hrest]

end ReleaseSearch.Text
