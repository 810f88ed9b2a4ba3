import ReleaseSearch.Proofs.Filter.Build
import ReleaseSearch.Proofs.Results.Data
import ReleaseSearch.Proofs.Results.Page

/-!
# Chains of filters

A chain of filters ends in a line, in a soft trouble, or in a breakdown.  Only a pattern can end it
before its end.  One that counts too far, whose flags conflict, or whose groups are nested too
deeply for the room that is left breaks it down: `Filter.IsBeyond` says which filters those are.
Where a definition has none of them, a filter that fails drops its own field and nothing else.
-/

namespace ReleaseSearch

open Results Text

section

variable [Pattern.Library]

namespace Filter

/-- A substitution whose pattern is beyond what can be read, and the breakdown that it leads to. -/
def IsBeyond (filter : Filter) (b : Breakdown) : Prop :=
  ∃ pattern replacement fault, filter = .substitute pattern replacement ∧
    Pattern.Program.read pattern.toList = .error fault ∧
    patternTrouble pattern fault = .breakdown b

/-! ## One filter -/

omit [Pattern.Library] in
/-- A pattern that is malformed fails softly, and any other fault breaks down. -/
theorem patternTrouble_of_ne {fault : Pattern.Fault} (h : fault ≠ .malformed) (pattern : String) :
    ∃ b, patternTrouble pattern fault = .breakdown b := by
  cases fault with
  | malformed => exact absurd rfl h
  | _ => exact ⟨_, rfl⟩

/-- A filter fails softly unless it is beyond. -/
theorem isSoft_of_not_isBeyond {filter : Filter} (h : ∀ b, ¬ filter.IsBeyond b) :
    filter.IsSoft := by
  cases filter with
  | substitute pattern replacement =>
      refine isSoft_substitute fun fault hread => ?_
      by_contra hfault
      obtain ⟨b, hb⟩ := patternTrouble_of_ne hfault pattern
      exact h b ⟨pattern, replacement, fault, rfl, hread, hb⟩
  | _ => exact isSoft_of_ok fun value => ⟨_, rfl⟩

theorem IsBeyond.outcome_apply {filter : Filter} {b : Breakdown} (h : filter.IsBeyond b)
    (value : Line) : (filter.apply value).outcome = .error (.breakdown b) := by
  obtain ⟨pattern, replacement, fault, rfl, hread, hb⟩ := h
  rw [outcome_substitute, ruleOf_of_fault hread, hb]
  rfl

/-- What is beyond is too large or out of place, or it is nested too deeply. -/
theorem IsBeyond.cases {filter : Filter} {b : Breakdown} (h : filter.IsBeyond b) :
    b = .tooLarge ∨ b = .badValue none ∨ b = .tooDeep := by
  obtain ⟨pattern, _, fault, _, _, hb⟩ := h
  cases fault <;> cases hb <;> simp

/-- A chain fails softly or breaks down. -/
theorem trouble_of_applyAll {filters : List Filter} {value : Line} {t : Trouble}
    (h : (applyAll filters value).outcome = .error t) : t.IsSoft ∨ ∃ b, t = .breakdown b := by
  induction filters generalizing value with
  | nil => cases h
  | cons filter rest ih =>
      rw [applyAll_cons] at h
      rcases Run.outcome_bind_eq_error_iff.mp h with h | ⟨next, _, h⟩
      · by_cases hbeyond : ∃ b, filter.IsBeyond b
        · obtain ⟨b, hb⟩ := hbeyond
          rw [hb.outcome_apply] at h
          cases h
          exact .inr ⟨b, rfl⟩
        · exact .inl (isSoft_of_not_isBeyond (not_exists.mp hbeyond) value t h)
      · exact ih h

end Filter

/-! ## Definitions -/

namespace Filter

end Filter

end

namespace Filter

/-! ## Two patterns -/

open Pattern.Bare

end Filter

end ReleaseSearch
