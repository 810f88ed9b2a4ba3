import Mathlib.Data.List.Induction
import ReleaseSearch.Catalogue.Basic

/-!
# Files and what is kept of them

A definition is read from the file that counts for its name: of the files that are there, the one
with the first of the known endings.  `Directory.Defines` says which definition that makes of a
directory; it speaks of the files only, and `load_eq_ok_iff` ties it to loading.

A catalogue is looked at through `find?`.  Keeping, forgetting and clearing change what is found
under one name, or under all of them, and leave the rest alone.
-/

namespace ReleaseSearch

open Catalogue

/-! ## Files -/

namespace Catalogue.Directory

variable {settings : Settings} {dir : Directory} {id name : String} {d : Definition}

/-- A file of a definition counts if there is none with an ending that comes before its own. -/
def Counts (dir : Directory) (id name : String) : Prop :=
  ∃ before ending after, endings = before ++ ending :: after ∧ name = id ++ ending ∧
    (dir.content? name).isSome ∧ ∀ e ∈ before, dir.content? (id ++ e) = none

theorem find?_eq_some_iff : dir.find? id = some name ↔ dir.Counts id name := by
  unfold find? Counts
  rw [List.find?_eq_some_iff_append]
  constructor
  · rintro ⟨hthere, before, after, hsplit, hbefore⟩
    obtain ⟨before, rest, hendings, rfl, hrest⟩ := List.map_eq_append_iff.mp hsplit
    obtain ⟨ending, after, rfl, hname, rfl⟩ := List.map_eq_cons_iff.mp hrest
    refine ⟨before, ending, after, hendings, hname.symm, hthere, ?_⟩
    intro e he
    simpa using hbefore (id ++ e) (List.mem_map_of_mem he)
  · rintro ⟨before, ending, after, hendings, rfl, hthere, hbefore⟩
    refine ⟨hthere, before.map (id ++ ·), after.map (id ++ ·), ?_, ?_⟩
    · rw [hendings, List.map_append, List.map_cons]
    · intro file hfile
      obtain ⟨e, he, rfl⟩ := List.mem_map.mp hfile
      rw [hbefore e he]
      rfl

/-- What the files of a directory make of a name: the file that counts is a text, the text holds
some data, and the data make the definition. -/
def Defines (settings : Settings) (dir : Directory) (id : String) (d : Definition) : Prop :=
  ∃ name content text raw, dir.Counts id name ∧ dir.content? name = some content ∧
    Text.Utf8.decode? content = some text ∧
    parse name (String.ofList (plainLines text)) = .ok raw ∧
    (Definition.load settings raw).outcome = .ok d

theorem read_eq_ok_iff {raw : Data} : dir.read name = .ok raw ↔
    ∃ content text, dir.content? name = some content ∧ Text.Utf8.decode? content = some text ∧
      parse name (String.ofList (plainLines text)) = .ok raw := by
  unfold read
  cases hcontent : dir.content? name with
  | none => simp
  | some content =>
      cases htext : Text.Utf8.decode? content with
      | none => simp [htext]
      | some text => simp [htext]

theorem load_eq_ok_iff : dir.load settings id = .ok d ↔ dir.Defines settings id d := by
  unfold load Defines
  cases hfind : dir.find? id with
  | none =>
      constructor
      · intro h
        cases h
      · rintro ⟨name, _, _, _, hcounts, _⟩
        rw [find?_eq_some_iff.mpr hcounts] at hfind
        cases hfind
  | some file =>
      have hfile := find?_eq_some_iff.mp hfind
      constructor
      · intro h
        cases hread : dir.read file with
        | error t =>
            simp only [hread] at h
            cases h
        | ok raw =>
            simp only [hread] at h
            obtain ⟨content, text, hcontent, htext, hparse⟩ := read_eq_ok_iff.mp hread
            exact ⟨file, content, text, raw, hfile, hcontent, htext, hparse, h⟩
      · rintro ⟨name, content, text, raw, hcounts, hcontent, htext, hparse, hload⟩
        rw [find?_eq_some_iff.mpr hcounts] at hfind
        -- only one file counts for an id
        obtain rfl := Option.some.inj hfind
        simp only [read_eq_ok_iff.mpr ⟨content, text, hcontent, htext, hparse⟩]
        exact hload

/-- The files make no more than one definition of a name. -/
theorem Defines.unique {d' : Definition} (h : dir.Defines settings id d)
    (h' : dir.Defines settings id d') : d = d' := by
  have heq : Except.ok d = .ok d' :=
    (load_eq_ok_iff.mpr h).symm.trans (load_eq_ok_iff.mpr h')
  exact Except.ok.inj heq

end Catalogue.Directory

/-! ## What is kept -/

namespace Catalogue

variable {c : Catalogue} {id other : String} {d : Definition}

@[simp] theorem find?_forget_self : (c.forget id).find? id = none := by
  unfold find? forget
  rw [List.find?_filter, Option.map_eq_none_iff, List.find?_eq_none]
  intro entry _
  simp

@[simp] theorem find?_forget_of_ne (h : other ≠ id) :
    (c.forget id).find? other = c.find? other := by
  unfold find? forget
  rw [List.find?_filter]
  congr 2
  funext entry
  by_cases hentry : entry.1 = other
  · subst hentry
    simp [h]
  · simp [hentry]

theorem find?_keep (c : Catalogue) (id other : String) (d : Definition) :
    (c.keep id d).2.find? other =
      ((c.forget id).find? other).or (if other = id then some ⟨c.next, d⟩ else none) := by
  unfold keep find?
  rw [List.find?_append]
  by_cases h : other = id
  · subst h
    simp only [List.find?_cons, beq_self_eq_true, if_true]
    cases (c.forget other).kept.find? (·.1 == other) <;> rfl
  · have hid : (id == other) = false := beq_eq_false_iff_ne.mpr (Ne.symm h)
    simp only [List.find?_cons, hid, List.find?_nil, Option.or_none, if_neg h]

@[simp] theorem find?_keep_self : (c.keep id d).2.find? id = some ⟨c.next, d⟩ := by
  rw [find?_keep, find?_forget_self, if_pos rfl, Option.none_or]

@[simp] theorem find?_keep_of_ne (h : other ≠ id) :
    (c.keep id d).2.find? other = c.find? other := by
  rw [find?_keep, find?_forget_of_ne h, if_neg h, Option.or_none]

/-- Keeping forgets what was there before. -/
theorem keep_forget (c : Catalogue) (id : String) (d : Definition) :
    (c.forget id).keep id d = c.keep id d := by
  unfold keep forget
  simp only [List.filter_filter, Bool.and_self]

@[simp] theorem find?_clear_none : (c.clear none).find? id = none := rfl

theorem clear_some (h : id ≠ "") : c.clear (some id) = c.forget id := if_neg h

end Catalogue

end ReleaseSearch
