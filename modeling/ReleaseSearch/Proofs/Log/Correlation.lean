import ReleaseSearch.Log.Record

/-!
# Entering and leaving a context

Entering a context notes what each value was before it is set, the latest first, so that leaving
it puts the values back in the opposite order.  A fresh context brings back the values that it was
given (`leave_sameIn`), and exactly the correlation that it was entered in if that was left alone:

    context.leave_enter : ((context.enter c).1.leave (context.enter c).2).2 = c

So what is done within it leaves no trace in the correlation, as long as it leaves the one that it
is given as it is.
-/

namespace ReleaseSearch.Correlation

theorem filled?_eq_some {s : String} (h : s ≠ "") : filled? (some s) = some s := by
  unfold filled?
  rw [Option.filter_some, if_pos (by simpa using h)]

/-- What lines show for values that are set. -/
theorem marks_of_set {c : Correlation} {searchId indexer : String}
    (hid : c.searchId = some searchId) (hname : c.indexer = some indexer)
    (hid' : searchId ≠ "") (hname' : indexer ≠ "") :
    Record.marks c = (searchId, indexer) := by
  unfold Record.marks
  rw [hid, hname, filled?_eq_some hid', filled?_eq_some hname']
  rfl

/-! ## Parts -/

inductive Part where
  | searchId
  | indexer
  | extra
  deriving DecidableEq

/-- Two correlations have the same value in a part. -/
def SameIn (p : Part) (c c' : Correlation) : Prop :=
  match p with
  | .searchId => c.searchId = c'.searchId
  | .indexer => c.indexer = c'.indexer
  | .extra => c.extra = c'.extra

namespace SameIn

variable {p : Part} {a b c : Correlation}

theorem refl (p : Part) (c : Correlation) : SameIn p c c := by
  cases p <;> rfl

theorem symm (h : SameIn p a b) : SameIn p b a := by
  cases p <;> exact Eq.symm h

theorem trans (hab : SameIn p a b) (hbc : SameIn p b c) : SameIn p a c := by
  cases p <;> exact Eq.trans hab hbc

theorem eq_iff : a = b ↔ ∀ p, SameIn p a b := by
  constructor
  · rintro rfl p
    exact refl p a
  · intro h
    obtain ⟨searchId, indexer, extra⟩ := a
    obtain rfl : searchId = b.searchId := h .searchId
    obtain rfl : indexer = b.indexer := h .indexer
    obtain rfl : extra = b.extra := h .extra
    rfl

end SameIn

/-! ## Contexts -/

namespace Context

variable {α : Type} {context : Context} {p : Part}

def sets (context : Context) : Part → Bool
  | .searchId => (filled? context.searchId).isSome
  | .indexer => (filled? context.indexer).isSome
  | .extra => !context.extra.isEmpty

/-- Entering a context leaves the parts alone that it was given no value for. -/
theorem enter_sameIn (hsets : context.sets p = false) (c : Correlation) :
    SameIn p (context.enter c).2 c := by
  obtain ⟨searchId, indexer, extra, former⟩ := context
  unfold enter
  -- What is set shows in the three values; each of the eight cases is read off them.
  cases hid : filled? searchId <;> cases hname : filled? indexer <;> cases extra <;>
    cases p <;> simp_all [sets, SameIn]

/-- Leaving a fresh context brings back the values that it was given, and leaves the others as they
have become. -/
theorem leave_sameIn (hfresh : context.former = []) (p : Part) (c inner : Correlation) :
    SameIn p ((context.enter c).1.leave inner).2 (if context.sets p then c else inner) := by
  obtain ⟨searchId, indexer, extra, former⟩ := context
  obtain rfl : former = [] := hfresh
  unfold enter leave
  cases hid : filled? searchId <;> cases hname : filled? indexer <;> cases extra <;>
    cases p <;> simp_all [sets, SameIn, restore]

/-- A fresh context brings back what it was entered in. -/
theorem leave_enter (hfresh : context.former = []) (c : Correlation) :
    ((context.enter c).1.leave (context.enter c).2).2 = c := by
  refine SameIn.eq_iff.mpr fun p => ?_
  have hleave := leave_sameIn hfresh p c (context.enter c).2
  cases hsets : context.sets p with
  | true => simpa only [hsets, if_true] using hleave
  | false =>
      simp only [hsets, Bool.false_eq_true, if_false] at hleave
      exact hleave.trans (enter_sameIn hsets c)

/-- Entering a context for a search of an indexer sets both and nothing else. -/
theorem enter_search {searchId indexer : String} (hid : searchId ≠ "") (hname : indexer ≠ "")
    (c : Correlation) :
    (enter { searchId := some searchId, indexer := some indexer } c).2 =
      { c with searchId := some searchId, indexer := some indexer } := by
  unfold enter
  simp only [filled?_eq_some hid, filled?_eq_some hname]
  rfl

end Context

end ReleaseSearch.Correlation
