import Mathlib.Data.List.Basic
import ReleaseSearch.Text.Substring

/-!
# Cutting at a character

A text is cut at the first place of a character, and split by cutting as often as possible.  The
main statements are that splitting takes apart what was put together with that character between the
pieces, and that writing a text character by character goes piece by piece, if only the character at
which it is cut is written as that character.
-/

namespace ReleaseSearch.Text

variable {sep : Char}

/-! ## Cutting once -/

theorem cut?_eq_none_iff {cs : List Char} : cut? sep cs = none ↔ sep ∉ cs := by
  induction cs with
  | nil => simp [cut?]
  | cons c cs ih =>
      unfold cut?
      by_cases hc : c = sep
      · simp [hc]
      · rw [if_neg hc, Option.map_eq_none_iff, ih, List.mem_cons]
        simp [Ne.symm hc]

theorem cut?_append {before : List Char} (h : sep ∉ before) (rest : List Char) :
    cut? sep (before ++ sep :: rest) = some (before, rest) := by
  induction before with
  | nil => simp [cut?]
  | cons c before ih =>
      have hc : c ≠ sep := fun hc => h (hc ▸ List.mem_cons_self)
      rw [List.cons_append, cut?, if_neg hc, ih fun hmem => h (List.mem_cons_of_mem _ hmem)]
      rfl

theorem cut?_eq_some_iff {cs before rest : List Char} :
    cut? sep cs = some (before, rest) ↔ cs = before ++ sep :: rest ∧ sep ∉ before := by
  constructor
  · intro h
    induction cs generalizing before with
    | nil => cases h
    | cons c cs ih =>
        unfold cut? at h
        by_cases hc : c = sep
        · rw [if_pos hc] at h
          cases h
          exact ⟨congrArg (· :: rest) hc, List.not_mem_nil⟩
        · rw [if_neg hc] at h
          obtain ⟨⟨before', rest'⟩, hcut, hparts⟩ := Option.map_eq_some_iff.mp h
          cases hparts
          obtain ⟨rfl, hmem⟩ := ih hcut
          exact ⟨rfl, by simp [Ne.symm hc, hmem]⟩
  · rintro ⟨rfl, h⟩
    exact cut?_append h rest

/-- What stands before a cut may be longer. -/
theorem cut?_append_of_not_mem {front : List Char} (h : sep ∉ front) (cs : List Char) :
    cut? sep (front ++ cs) = (cut? sep cs).map fun parts => (front ++ parts.1, parts.2) := by
  cases hcut : cut? sep cs with
  | none =>
      rw [cut?_eq_none_iff] at hcut
      exact cut?_eq_none_iff.mpr fun hmem => (List.mem_append.mp hmem).elim h hcut
  | some parts =>
      obtain ⟨rfl, hbefore⟩ := cut?_eq_some_iff.mp hcut
      rw [← List.append_assoc]
      exact cut?_append (fun hmem => (List.mem_append.mp hmem).elim h hbefore) parts.2

/-! ## Splitting -/

/-- Splitting is cutting, and splitting the rest. -/
theorem splitOn_eq (sep : Char) (cs : List Char) :
    splitOn sep cs =
      match cut? sep cs with
      | none => [cs]
      | some parts => parts.1 :: splitOn sep parts.2 := by
  induction cs with
  | nil => rfl
  | cons c cs ih =>
      rw [cut?]
      by_cases hc : c = sep
      · rw [if_pos hc, splitOn, if_pos hc]
      · rw [if_neg hc, splitOn, if_neg hc, ih]
        cases cut? sep cs with
        | none => rfl
        | some parts => rfl

theorem splitOn_of_not_mem {cs : List Char} (h : sep ∉ cs) : splitOn sep cs = [cs] := by
  rw [splitOn_eq, cut?_eq_none_iff.mpr h]

theorem splitOn_append {before : List Char} (h : sep ∉ before) (rest : List Char) :
    splitOn sep (before ++ sep :: rest) = before :: splitOn sep rest := by
  rw [splitOn_eq, cut?_append h]

/-- What is put together has nothing in it but the pieces and what is between them. -/
theorem mem_intercalate {c : Char} {between : List Char} {pieces : List (List Char)}
    (h : c ∈ between.intercalate pieces) : c ∈ between ∨ ∃ piece ∈ pieces, c ∈ piece := by
  induction pieces with
  | nil => cases h
  | cons piece rest ih =>
      cases rest with
      | nil =>
          rw [List.intercalate_singleton] at h
          exact Or.inr ⟨piece, List.mem_cons_self, h⟩
      | cons piece' rest =>
          rw [List.intercalate_cons_cons, List.mem_append, List.mem_append] at h
          rcases h with (hpiece | hbetween) | hrest
          · exact Or.inr ⟨piece, List.mem_cons_self, hpiece⟩
          · exact Or.inl hbetween
          · exact (ih hrest).imp_right fun ⟨later, hlater, hc⟩ =>
              ⟨later, List.mem_cons_of_mem _ hlater, hc⟩

/-- **Splitting takes apart what was put together.** -/
theorem splitOn_intercalate {pieces : List (List Char)} (hne : pieces ≠ [])
    (h : ∀ piece ∈ pieces, sep ∉ piece) : splitOn sep ([sep].intercalate pieces) = pieces := by
  induction pieces with
  | nil => exact absurd rfl hne
  | cons piece rest ih =>
      cases rest with
      | nil =>
          rw [List.intercalate_singleton]
          exact splitOn_of_not_mem (h piece List.mem_cons_self)
      | cons piece' rest =>
          rw [List.intercalate_cons_cons, List.append_assoc, List.singleton_append,
            splitOn_append (h piece List.mem_cons_self),
            ih (List.cons_ne_nil _ _) fun p hp => h p (List.mem_cons_of_mem _ hp)]

/-! ## Writing a text character by character -/

/-- A way to write characters in which a character stands for itself, and for itself only. -/
def Keeps (sep : Char) (write : Char → List Char) : Prop :=
  write sep = [sep] ∧ ∀ c, c ≠ sep → sep ∉ write c

variable {write : Char → List Char}

theorem Keeps.mem_flatMap_iff (h : Keeps sep write) {cs : List Char} :
    sep ∈ cs.flatMap write ↔ sep ∈ cs := by
  rw [List.mem_flatMap]
  constructor
  · rintro ⟨c, hc, hmem⟩
    by_cases hsep : c = sep
    · exact hsep ▸ hc
    · exact absurd hmem (h.2 c hsep)
  · intro hmem
    exact ⟨sep, hmem, by simp [h.1]⟩

theorem Keeps.cut?_flatMap (h : Keeps sep write) (cs : List Char) :
    cut? sep (cs.flatMap write) =
      (cut? sep cs).map fun parts => (parts.1.flatMap write, parts.2.flatMap write) := by
  cases hcut : cut? sep cs with
  | none =>
      rw [cut?_eq_none_iff] at hcut
      exact cut?_eq_none_iff.mpr (mt h.mem_flatMap_iff.mp hcut)
  | some parts =>
      obtain ⟨rfl, hbefore⟩ := cut?_eq_some_iff.mp hcut
      rw [List.flatMap_append, List.flatMap_cons, h.1, List.singleton_append]
      exact cut?_append (mt h.mem_flatMap_iff.mp hbefore) _

/-- **Writing a text is writing its pieces**; the induction is on the length of the text. -/
theorem Keeps.splitOn_flatMap (h : Keeps sep write) (cs : List Char) :
    splitOn sep (cs.flatMap write) = (splitOn sep cs).map (·.flatMap write) := by
  induction hlength : cs.length using Nat.strongRecOn generalizing cs with
  | _ n ih =>
      rw [splitOn_eq, h.cut?_flatMap, splitOn_eq sep cs]
      cases hcut : cut? sep cs with
      | none => rfl
      | some parts =>
          obtain ⟨rfl, _⟩ := cut?_eq_some_iff.mp hcut
          have hshorter : parts.2.length < n := by
            rw [List.length_append, List.length_cons] at hlength
            omega
          simp only [Option.map_some, List.map_cons]
          rw [ih _ hshorter parts.2 rfl]

end ReleaseSearch.Text
