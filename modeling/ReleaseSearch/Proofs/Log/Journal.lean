import ReleaseSearch.Log.Journal
import ReleaseSearch.Proofs.Log.Correlation

/-!
# What is written within a context

`Extends j j'` says that `j'` is `j` with more written into it.  Writing extends a journal, and so
does one thing after another that does.  The main statement is on what is done within a context: if
it only extends the journal that it is given, then all that it writes carries the correlation of the
context, and the correlation afterwards is the one from before.
-/

namespace ReleaseSearch.Journal

/-- Every entry is stamped with the correlation that is there, and that stays. -/
theorem writeAll_eq (j : Journal) (entries : List Entry) :
    j.writeAll entries =
      ⟨j.correlation, j.written ++ entries.map fun entry => ⟨entry, j.correlation⟩⟩ := by
  induction entries generalizing j with
  | nil => exact congrArg (Journal.mk j.correlation) (List.append_nil _).symm
  | cons entry entries ih =>
      refine (ih (j.write entry)).trans ?_
      simp [write]

/-- A journal is another one with more written into it. -/
def Extends (j j' : Journal) : Prop := ∃ entries, j' = j.writeAll entries

namespace Extends

theorem refl (j : Journal) : Extends j j := ⟨[], rfl⟩

theorem trans {a b c : Journal} (hab : Extends a b) (hbc : Extends b c) : Extends a c := by
  obtain ⟨first, rfl⟩ := hab
  obtain ⟨second, rfl⟩ := hbc
  exact ⟨first ++ second, List.foldl_append.symm⟩

end Extends

theorem extends_write (j : Journal) (entry : Entry) : Extends j (j.write entry) := ⟨[entry], rfl⟩

theorem extends_writeAll (j : Journal) (entries : List Entry) : Extends j (j.writeAll entries) :=
  ⟨entries, rfl⟩

variable {α : Type} {context : Correlation.Context}

/-- **All that is written within a fresh context carries its correlation**, and the correlation
from before is there again afterwards. -/
theorem within_eq (hfresh : context.former = []) (j : Journal) {body : Journal → α × Journal}
    {entries : List Entry} {inner : Journal}
    (hinner : inner = { j with correlation := (context.enter j.correlation).2 })
    (hbody : (body inner).2 = inner.writeAll entries) :
    j.within context body = ((body inner).1, ⟨j.correlation, j.written ++ entries.map fun entry =>
      ⟨entry, (context.enter j.correlation).2⟩⟩) := by
  subst hinner
  rw [writeAll_eq] at hbody
  have hleft := Correlation.Context.leave_enter hfresh j.correlation
  have hwithin : j.within context body =
      ((body { j with correlation := (context.enter j.correlation).2 }).1,
        ⟨((context.enter j.correlation).1.leave
            (body { j with correlation := (context.enter j.correlation).2 }).2.correlation).2,
          (body { j with correlation := (context.enter j.correlation).2 }).2.written⟩) := rfl
  rw [hwithin, hbody, hleft]

end ReleaseSearch.Journal
