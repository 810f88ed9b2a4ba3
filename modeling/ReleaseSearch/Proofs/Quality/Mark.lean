import Mathlib.Data.List.Forall2
import ReleaseSearch.Proofs.Text.Word
import ReleaseSearch.Quality.Mark

/-!
# Where marks are found

Two properties of the search for a mark:

* **Case** (`occursIn_of_sameLetters`): titles that are the same up to the case of their letters
  have the same marks, since no place of a mark tells a letter from its capital.
* **Borders** (`occursIn_separated`): a mark is in two titles with a separator between them exactly
  if it is in one of the two, since no place of a mark accepts a separator, and a separator is to
  the words beside it what the end of a title is.
-/

namespace ReleaseSearch.Quality

open Text

/-! ## Characters that look the same -/

/-- What no mark can tell apart. -/
structure Alike (x y : Char) : Prop where
  word : isWord x = isWord y
  accepts : ∀ place : Place, place.accepts x = place.accepts y

theorem Alike.refl (x : Char) : Alike x x := ⟨rfl, fun _ => rfl⟩

theorem Alike.symm {x y : Char} (h : Alike x y) : Alike y x :=
  ⟨h.word.symm, fun place => (h.accepts place).symm⟩

theorem Alike.trans {x y z : Char} (hxy : Alike x y) (hyz : Alike y z) : Alike x z :=
  ⟨hxy.word.trans hyz.word, fun place => (hxy.accepts place).trans (hyz.accepts place)⟩

/-- It does not matter which of them is in front. -/
theorem Alike.before {x y : Char} (h : Alike x y) : (some x).any isWord = (some y).any isWord :=
  h.word

theorem isForm_asciiLowerChar (c x : Char) : isForm c (asciiLowerChar x) = isForm c x := by
  have hlower : asciiLowerChar (asciiLowerChar x) = asciiLowerChar x :=
    asciiLowerChar_blind asciiLowerChar (by decide) x
  have hlookalike : (lookalikes c).contains (asciiLowerChar x) = (lookalikes c).contains x := by
    refine asciiLowerChar_blind (lookalikes c).contains ?_ x
    unfold lookalikes
    split <;> decide
  unfold isForm
  rw [hlower, hlookalike]

/-- A letter and its capital look the same. -/
theorem alike_asciiLowerChar (x : Char) : Alike (asciiLowerChar x) x := by
  refine ⟨isWord_asciiLowerChar x, fun place => ?_⟩
  cases place with
  | char c => exact isForm_asciiLowerChar c x
  | digit => exact isDigit_asciiLowerChar x
  | oneOf cs => simp [Place.accepts, isForm_asciiLowerChar]
  | blankOr cs => simp [Place.accepts, isForm_asciiLowerChar, isBlank_asciiLowerChar]

namespace Mark

variable {before before' : Option Char} {cs ds : List Char}

/-- What is in front counts only as far as it is a word character or not.  The induction is on the
mark; a place goes on from one character to the next in both titles. -/
theorem startsAt_congr (mark : Mark) (hbefore : before.any isWord = before'.any isWord)
    (h : List.Forall₂ Alike cs ds) : mark.startsAt before cs = mark.startsAt before' ds := by
  induction mark generalizing before before' cs ds with
  | nil => simp only [startsAt]
  | cons piece mark ih =>
      cases piece with
      | edge =>
          -- an edge looks at the character on either side
          have hhead : cs.head?.any isWord = ds.head?.any isWord := by
            cases h with
            | nil => rfl
            | cons hx _ => exact hx.word
          simp only [startsAt, isEdge]
          rw [hbefore, hhead, ih hbefore h]
      | one place =>
          cases h with
          | nil => rfl
          | cons hx hrest =>
              simp only [startsAt]
              rw [hx.accepts place, ih hx.before hrest]
      | maybe place =>
          -- a place that may be left out: what stands here is taken, or passed over
          cases h with
          | nil => exact ih hbefore .nil
          | cons hx hrest =>
              simp only [startsAt]
              rw [hx.accepts place, ih hx.before hrest, ih hbefore (.cons hx hrest)]

theorem occursFrom_congr (mark : Mark) (hbefore : before.any isWord = before'.any isWord)
    (h : List.Forall₂ Alike cs ds) : mark.occursFrom before cs = mark.occursFrom before' ds := by
  induction h generalizing before before' with
  | nil => exact startsAt_congr mark hbefore .nil
  | cons hx hrest ih =>
      simp only [occursFrom]
      rw [startsAt_congr mark hbefore (.cons hx hrest), ih hx.before]

/-- **Titles that are the same up to the case of their letters have the same marks.** -/
theorem occursIn_of_sameLetters (mark : Mark)
    (h : cs.map asciiLowerChar = ds.map asciiLowerChar) : mark.occursIn cs = mark.occursIn ds := by
  have hletters : List.Forall₂ (fun x y => asciiLowerChar x = asciiLowerChar y) cs ds :=
    List.forall₂_map_left_iff.mp (List.forall₂_map_right_iff.mp (List.forall₂_eq_eq_eq ▸ h))
  refine occursFrom_congr mark rfl (hletters.imp fun x y hxy => ?_)
  exact (alike_asciiLowerChar x).symm.trans (hxy ▸ alike_asciiLowerChar y)

end Mark

/-! ## Separators -/

/-- What stands between two titles: no word character, no blank, and none of the signs that occur
within marks. -/
structure IsSeparator (c : Char) : Prop where
  word : isWord c = false
  blank : isBlank c = false
  sign : c ∉ ['-', '.', '+']

/-- Whether a character can be within a mark. -/
def isInner (c : Char) : Bool := isWord c || ['-', '.', '+'].contains c

/-- Whether a place asks for characters that can be within a mark. -/
def Place.isInner : Place → Bool
  | .char c => Quality.isInner c
  | .digit => true
  | .oneOf cs | .blankOr cs => cs.all Quality.isInner

def Mark.isInner (mark : Mark) : Bool := mark.all fun
  | .one place | .maybe place => place.isInner
  | .edge => true

theorem isWord_of_mem_lookalikes {c x : Char} (h : x ∈ lookalikes c) : isWord x = true := by
  have hall : ((lookalikes c).all fun y => 128 ≤ y.toNat &&
      wordRanges.toList.any fun r => r.1 ≤ y.toNat && y.toNat ≤ r.2) = true := by
    unfold lookalikes
    split <;> decide +kernel
  have hx := List.all_eq_true.mp hall x h
  rw [Bool.and_eq_true, decide_eq_true_eq] at hx
  rw [isWord_beyond hx.1]
  exact hx.2

theorem isForm_of_isSeparator {c x : Char} (hc : IsSeparator c) (hx : isInner x = true) :
    isForm x c = false := by
  have hne : c ≠ x := by
    rintro rfl
    rw [isInner, hc.word, Bool.false_or, List.contains_iff_mem] at hx
    exact hc.sign hx
  have hlookalike : c ∉ lookalikes x := by
    intro hmem
    have hword := isWord_of_mem_lookalikes hmem
    rw [hc.word] at hword
    cases hword
  simp [isForm, asciiLowerChar_of_not_isWord hc.word, hne, hlookalike]

theorem accepts_of_isSeparator {c : Char} (hc : IsSeparator c) {place : Place}
    (hplace : place.isInner = true) : place.accepts c = false := by
  cases place with
  | char x => exact isForm_of_isSeparator hc hplace
  | digit =>
      refine Bool.eq_false_iff.mpr fun hdigit => ?_
      have hword := isWord_of_isDigit hdigit
      rw [hc.word] at hword
      cases hword
  | oneOf xs =>
      have hxs := List.all_eq_true.mp hplace
      exact List.any_eq_false.mpr fun x hx => by simp [isForm_of_isSeparator hc (hxs x hx)]
  | blankOr xs =>
      have hxs := List.all_eq_true.mp hplace
      simp only [Place.accepts, hc.blank, Bool.false_or]
      exact List.any_eq_false.mpr fun x hx => by simp [isForm_of_isSeparator hc (hxs x hx)]

namespace Mark

variable {c : Char} {mark : Mark}

/-- A mark that starts before a separator ends before it. -/
theorem startsAt_separated (hc : IsSeparator c) (hmark : mark.isInner = true) (before : Option Char)
    (cs rest : List Char) : mark.startsAt before (cs ++ c :: rest) = mark.startsAt before cs := by
  induction mark generalizing before cs with
  | nil => simp only [startsAt]
  | cons piece mark ih =>
      obtain ⟨hpiece, hmark⟩ : _ ∧ isInner mark = true := by
        simpa only [isInner, List.all_cons, Bool.and_eq_true] using hmark
      have ih := ih hmark
      cases piece with
      | edge =>
          -- a word ends at a separator as it ends at the end of a title
          have hhead : (cs ++ c :: rest).head?.any isWord = cs.head?.any isWord := by
            cases cs with
            | nil => exact hc.word
            | cons d cs => rfl
          simp only [startsAt, isEdge]
          rw [hhead, ih before cs]
      | one place =>
          cases cs with
          | nil => simp [startsAt, accepts_of_isSeparator hc hpiece]
          | cons d cs =>
              simp only [startsAt, List.cons_append]
              rw [ih (some d) cs]
      | maybe place =>
          cases cs with
          | nil =>
              simp only [startsAt, List.nil_append, accepts_of_isSeparator hc hpiece,
                Bool.false_and, Bool.false_or]
              exact ih before []
          | cons d cs =>
              simp only [startsAt, List.cons_append]
              rw [ih (some d) cs, ← List.cons_append, ih before (d :: cs)]

/-- The induction is on the first title; at the separator the search begins anew. -/
theorem occursFrom_separated (hc : IsSeparator c) (hmark : mark.isInner = true)
    (before : Option Char) (cs ds : List Char) :
    mark.occursFrom before (cs ++ c :: ds) = (mark.occursFrom before cs || mark.occursIn ds) := by
  induction cs generalizing before with
  | nil =>
      have hend : mark.startsAt before (c :: ds) = mark.startsAt before [] :=
        startsAt_separated hc hmark before [] ds
      have hanew : mark.occursFrom (some c) ds = mark.occursIn ds :=
        occursFrom_congr mark hc.word (List.forall₂_same.mpr fun x _ => Alike.refl x)
      rw [List.nil_append, occursFrom, occursFrom, hend, hanew]
  | cons d cs ih =>
      rw [List.cons_append, occursFrom, occursFrom, ih, ← List.cons_append,
        startsAt_separated hc hmark before (d :: cs) ds, Bool.or_assoc]

/-- **A mark is in two titles with a separator between them if it is in one of the two.** -/
theorem occursIn_separated (hc : IsSeparator c) (hmark : mark.isInner = true) (cs ds : List Char) :
    mark.occursIn (cs ++ c :: ds) = (mark.occursIn cs || mark.occursIn ds) :=
  occursFrom_separated hc hmark none cs ds

end Mark

end ReleaseSearch.Quality
