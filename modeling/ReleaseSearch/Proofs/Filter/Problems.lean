import ReleaseSearch.Proofs.Filter.Build

/-!
# Filters without problems

`problems` is asked before a filter is built, and `build` asks it again.  What is written may pass
the first time and not the second: a bare name is not looked at until it stands in a record, and the
arguments of an unknown filter are not looked at until they are put in words.  `FailsLate spec` says
so of what is written, and

    build spec ends in a filter   ↔   problems spec = .ok [] and spec does not fail late
-/

namespace ReleaseSearch.Filter

/-! ## Records -/

def argumentsIn (es : Entries) : Data := (Data.find? "args" es).getD .null

theorem parts?_map_of_text {es : Entries} {name : String}
    (h : Data.find? "name" es = some (.text name)) :
    parts? (.map es) = some (name, argumentsIn es) := by
  simp only [parts?, h, argumentsIn]

theorem parts?_map_of_not_text {es : Entries}
    (h : ∀ name, Data.find? "name" es ≠ some (.text name)) : parts? (.map es) = none := by
  unfold parts?
  dsimp only
  split
  · next name hname => exact absurd hname (h name)
  · rfl

/-- A bare name is built as a record of its own. -/
theorem build_text (name : String) : build (.text name) = build (.object [("name", .text name)]) :=
  rfl

/-- A record has no problems if it has a name and the arguments that its name asks for. -/
theorem problems_map_eq_nil_iff {es : Entries} :
    problems (.map es) = .ok [] ↔ ∃ name, Data.find? "name" es = some (.text name) ∧ name ≠ "" ∧
      ∀ needed, needed? name = some needed →
        ∃ args, arguments (argumentsIn es) = .ok args ∧ needed ≤ args.length := by
  unfold problems
  dsimp only
  split
  · next name hname =>
    by_cases hempty : name = ""
    · simp [hname, hempty]
    · rw [if_neg (mt String.isEmpty_iff.mp hempty)]
      constructor
      · intro h
        refine ⟨name, hname, hempty, fun needed hneeded => ?_⟩
        simp only [hneeded] at h
        obtain ⟨args, hargs, h⟩ := bind_eq_ok_iff.mp h
        refine ⟨args, hargs, ?_⟩
        -- too few arguments would be a problem
        by_contra hfew
        rw [if_pos (Nat.lt_of_not_le hfew)] at h
        cases h
      · rintro ⟨name', hname', _, hargs⟩
        cases hname.symm.trans hname'
        cases hneeded : needed? name with
        | none => rfl
        | some needed =>
            obtain ⟨args, hargs, henough⟩ := hargs needed hneeded
            exact bind_eq_ok_iff.mpr ⟨args, hargs, if_neg (Nat.not_lt.mpr henough)⟩
  · next hother =>
    refine iff_of_false (by simp) ?_
    rintro ⟨name, hname, _⟩
    exact hother name hname

/-- A record without problems is built if its arguments are texts. -/
theorem exists_build_map_iff {es : Entries} :
    (∃ filter, (build (.map es)).run.value = .ok filter) ↔
      problems (.map es) = .ok [] ∧ ∃ args, arguments (argumentsIn es) = .ok args := by
  constructor
  · rintro ⟨filter, h⟩
    unfold build at h
    rw [value_bind] at h
    obtain ⟨problems, hproblems, h⟩ := bind_eq_ok_iff.mp h
    split at h
    · cases h
    · next name args hparts =>
      rw [value_bind] at h
      obtain ⟨texts, htexts, _⟩ := bind_eq_ok_iff.mp h
      obtain ⟨_, hname, _⟩ := problems_map_eq_nil_iff.mp hproblems
      -- the name that is built is the one that was checked
      cases (parts?_map_of_text hname).symm.trans hparts
      exact ⟨hproblems, texts, htexts⟩
    · cases h
  · rintro ⟨hproblems, args, hargs⟩
    obtain ⟨name, hname, _⟩ := problems_map_eq_nil_iff.mp hproblems
    refine ⟨(announce name args).value, ?_⟩
    unfold build
    rw [value_bind]
    refine bind_eq_ok_iff.mpr ⟨[], hproblems, ?_⟩
    dsimp only
    rw [parts?_map_of_text hname]
    dsimp only
    rw [value_bind]
    exact bind_eq_ok_iff.mpr ⟨args, hargs, rfl⟩

/-- Records with one name and the same arguments have the same problems. -/
theorem problems_map_congr {es es' : Entries} (hname : Data.find? "name" es = Data.find? "name" es')
    (hargs : arguments (argumentsIn es) = arguments (argumentsIn es')) :
    problems (.map es) = problems (.map es') := by
  unfold argumentsIn at hargs
  simp only [problems, hname, hargs]

/-- They are built alike. -/
theorem build_map_congr {es es' : Entries} (hname : Data.find? "name" es = Data.find? "name" es')
    (hargs : arguments (argumentsIn es) = arguments (argumentsIn es')) :
    build (.map es) = build (.map es') := by
  unfold build
  dsimp only
  rw [problems_map_congr hname hargs]
  refine congrArg _ (funext fun problems => ?_)
  by_cases htext : ∃ name, Data.find? "name" es' = some (.text name)
  · obtain ⟨name, htext⟩ := htext
    rw [parts?_map_of_text htext, parts?_map_of_text (hname.trans htext)]
    cases problems with
    | cons problem rest => rfl
    | nil =>
        dsimp only
        rw [hargs]
  · rw [not_exists] at htext
    rw [parts?_map_of_not_text htext, parts?_map_of_not_text fun name => hname ▸ htext name]

/-- A single argument stands for a list of one. -/
theorem arguments_single {d : Data} (hnull : d ≠ .null) (hlist : ∀ items, d ≠ .list items) :
    arguments (.list [d]) = arguments d := by
  cases d with
  | null => exact absurd rfl hnull
  | list items => exact absurd rfl (hlist items)
  | _ => simp [arguments, argument]

/-! ## What fails late -/

/-- A filter that has no problems and cannot be built. -/
inductive FailsLate : Data → Prop
  /-- A bare name may be empty. -/
  | unnamed : FailsLate (.text "")
  /-- It may be the name of a filter that cannot do without arguments. -/
  | bare {name : String} {needed : Nat} (h : needed? name = some (needed + 1)) :
      FailsLate (.text name)
  /-- The arguments of a filter that is not known may hold a number that is too long. -/
  | long {es : Entries} {name : String} (hname : Data.find? "name" es = some (.text name))
      (hfilled : name ≠ "") (hunknown : needed? name = none)
      (hlong : ¬ (argumentsIn es).isWritable = true) : FailsLate (.map es)

theorem failsLate_text_iff {name : String} :
    FailsLate (.text name) ↔ name = "" ∨ ∃ needed, needed? name = some (needed + 1) := by
  constructor
  · intro h
    cases h with
    | unnamed => exact .inl rfl
    | bare h => exact .inr ⟨_, h⟩
  · rintro (rfl | ⟨needed, h⟩)
    · exact .unnamed
    · exact .bare h

theorem failsLate_map_iff {es : Entries} :
    FailsLate (.map es) ↔ ∃ name, Data.find? "name" es = some (.text name) ∧ name ≠ "" ∧
      needed? name = none ∧ ¬ (argumentsIn es).isWritable = true := by
  constructor
  · intro h
    cases h with
    | long hname hfilled hunknown hlong => exact ⟨_, hname, hfilled, hunknown, hlong⟩
  · rintro ⟨name, hname, hfilled, hunknown, hlong⟩
    exact .long hname hfilled hunknown hlong

/-- Arguments are texts if they can be put in words. -/
theorem exists_arguments_iff {args : Data} :
    (∃ texts, arguments args = .ok texts) ↔ args.isWritable = true := by
  cases h : arguments args with
  | ok texts =>
      refine iff_of_true ⟨texts, rfl⟩ ?_
      by_contra hlong
      rw [arguments_eq_error_iff.mpr ⟨hlong, rfl⟩] at h
      cases h
  | error b => simpa using (arguments_eq_error_iff.mp h).1

/-- What fails late has no problems. -/
theorem FailsLate.problems_eq {spec : Data} (h : FailsLate spec) : problems spec = .ok [] := by
  cases h with
  | unnamed => rfl
  | bare h => rfl
  | long hname hfilled hunknown _ =>
      refine problems_map_eq_nil_iff.mpr ⟨_, hname, hfilled, fun needed hneeded => ?_⟩
      rw [hunknown] at hneeded
      cases hneeded

/-- A record with a name alone has no problems if the name is not empty and needs no arguments. -/
theorem problems_named_eq_nil_iff {name : String} :
    problems (.object [("name", .text name)]) = .ok [] ↔ ¬ FailsLate (.text name) := by
  have hname : Data.find? "name" [(.text "name", .text name)] = some (.text name) := rfl
  have hargs : arguments (argumentsIn [(.text "name", .text name)]) = .ok [] := rfl
  refine problems_map_eq_nil_iff.trans ?_
  rw [failsLate_text_iff]
  constructor
  · rintro ⟨name', hname', hfilled, henough⟩ hlate
    cases hname.symm.trans hname'
    rcases hlate with rfl | ⟨needed, hneeded⟩
    · exact hfilled rfl
    · obtain ⟨args, hargs', hle⟩ := henough _ hneeded
      cases hargs.symm.trans hargs'
      simp at hle
  · intro h
    obtain ⟨hfilled, hneeds⟩ := not_or.mp h
    refine ⟨name, hname, hfilled, fun needed hneeded => ⟨[], hargs, ?_⟩⟩
    cases needed with
    | zero => simp
    | succ needed => exact absurd ⟨needed, hneeded⟩ hneeds

/-- A bare name is built if the record that it stands for has no problems. -/
theorem exists_build_text_iff {name : String} :
    (∃ filter, (build (.text name)).run.value = .ok filter) ↔ ¬ FailsLate (.text name) := by
  rw [build_text, ← problems_named_eq_nil_iff]
  exact exists_build_map_iff.trans (and_iff_left ⟨[], rfl⟩)

/-- **A filter is built exactly if it has no problems and does not fail late.** -/
theorem exists_build_iff {spec : Data} :
    (∃ filter, (build spec).run.value = .ok filter) ↔
      problems spec = .ok [] ∧ ¬ FailsLate spec := by
  cases spec with
  | text name =>
      rw [exists_build_text_iff]
      exact (and_iff_right rfl).symm
  | map es =>
      rw [exists_build_map_iff, exists_arguments_iff, failsLate_map_iff]
      refine and_congr_right fun hproblems => ?_
      obtain ⟨name, hname, hfilled, hargs⟩ := problems_map_eq_nil_iff.mp hproblems
      constructor
      · rintro hwords ⟨_, _, _, _, hlong⟩
        exact hlong hwords
      · intro h
        by_contra hlong
        -- The arguments of a known filter were looked at already.
        cases hneeded : needed? name with
        | none => exact h ⟨name, hname, hfilled, hneeded, hlong⟩
        | some needed =>
            obtain ⟨args, hargs, _⟩ := hargs needed hneeded
            exact hlong (exists_arguments_iff.mp ⟨args, hargs⟩)
  | _ =>
      refine iff_of_false ?_ ?_
      · rintro ⟨filter, h⟩
        cases h
      · rintro ⟨h, _⟩
        cases h

/-! ## Chains -/

/-- A chain is built if each of its filters is. -/
theorem exists_buildAll_iff {specs : List Data} :
    (∃ filters, (buildAll specs).run.value = .ok filters) ↔
      ∀ spec ∈ specs, ∃ filter, (build spec).run.value = .ok filter := by
  rw [value_buildAll]
  exact exists_mapM_ok_iff

end ReleaseSearch.Filter
