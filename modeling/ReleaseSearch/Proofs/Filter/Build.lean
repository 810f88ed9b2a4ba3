import ReleaseSearch.Filter.Spec
import ReleaseSearch.Proofs.Data.Wording
import ReleaseSearch.Proofs.Except
import ReleaseSearch.Proofs.Run

/-!
# Building filters

A filter that is written may be refused: something is missing in it, or an argument cannot be put in
words.  Nothing else can go wrong while filters are built, whatever is written.
-/

namespace ReleaseSearch

/-! ## Entries change nothing -/

/-- Steps with entries can be put together in any way.  This is no instance: `simp` would bring all
runs into the form of maps. -/
theorem lawfulMonad_logged : LawfulMonad Logged :=
  have id_map {α : Type} (x : Logged α) : id <$> x = x := by
    obtain ⟨value, entries⟩ := x
    exact congrArg (Logged.mk value) (List.append_nil entries)
  .mk' Logged id_map (fun _ _ => rfl) fun _ _ _ => congrArg (Logged.mk _) (List.append_assoc ..)

namespace Filter

variable {α β : Type}

/-- The entries of a step have no say in what comes of the next one. -/
theorem value_bind (x : ExceptT Breakdown Logged α) (f : α → ExceptT Breakdown Logged β) :
    (x >>= f).run.value = x.run.value >>= fun a => (f a).run.value := by
  obtain ⟨value, entries⟩ := x
  cases value with
  | ok a => rfl
  | error b => rfl

/-! ## Long numbers -/

theorem argument_eq_error_iff {d : Data} {b : Breakdown} :
    argument d = .error b ↔ ¬ d.isWritable = true ∧ b = .badValue none := by
  cases d with
  | null => simp [argument, Data.isWritable]
  | _ => exact Data.inWords_eq_error_iff

/-- Arguments are texts unless there is a number among them that cannot be put in words. -/
theorem arguments_eq_error_iff {args : Data} {b : Breakdown} :
    arguments args = .error b ↔ ¬ args.isWritable = true ∧ b = .badValue none := by
  cases args with
  | null => simp [arguments, Data.isWritable]
  | list items =>
      show items.mapM argument = .error b ↔ ¬ Data.allWritable items = true ∧ _
      rw [Data.allWritable_iff]
      constructor
      · intro h
        obtain ⟨before, item, after, rfl, _, hitem⟩ := mapM_eq_error_iff.mp h
        obtain ⟨hlong, rfl⟩ := argument_eq_error_iff.mp hitem
        exact ⟨fun hall => hlong (hall item (by simp)), rfl⟩
      · rintro ⟨hlong, rfl⟩
        obtain ⟨item, hmem, hitem⟩ := not_forall₂.mp hlong
        obtain ⟨b, hb⟩ :=
          mapM_fails_iff.mpr ⟨item, hmem, _, argument_eq_error_iff.mpr ⟨hitem, rfl⟩⟩
        -- whichever argument fails first, all of them fail in the same way
        obtain ⟨_, _, _, _, _, hfirst⟩ := mapM_eq_error_iff.mp hb
        obtain ⟨_, rfl⟩ := argument_eq_error_iff.mp hfirst
        exact hb
  | _ =>
      unfold arguments
      rw [bind_eq_error_iff, Data.inWords_eq_error_iff]
      simp [pure, Except.pure]

/-- A filter with a known name and an argument that cannot be put in words. -/
def HasLongArgument (spec : Data) : Prop :=
  ∃ es name, spec = .map es ∧ Data.find? "name" es = some (.text name) ∧
    (needed? name).isSome = true ∧
    ¬ ((Data.find? "args" es).getD .null).isWritable = true

/-- Only an argument that cannot be put in words keeps the problems from being told. -/
theorem problems_eq_error_iff {spec : Data} {b : Breakdown} :
    problems spec = .error b ↔ HasLongArgument spec ∧ b = .badValue none := by
  constructor
  · intro h
    unfold problems at h
    split at h
    · cases h
    · next es =>
      split at h
      · next name hname =>
        split at h
        · cases h
        · split at h
          · cases h
          · next needed hneeded =>
            rcases bind_eq_error_iff.mp h with h | ⟨args, _, h⟩
            -- Only laying out the arguments can fail: everything else is a list of problems.
            · obtain ⟨hlong, rfl⟩ := arguments_eq_error_iff.mp h
              exact ⟨⟨es, name, rfl, hname, by rw [hneeded]; rfl, hlong⟩, rfl⟩
            · dsimp only at h
              split at h <;> cases h
      · cases h
    · cases h
  · rintro ⟨⟨es, name, rfl, hname, hknown, hlong⟩, rfl⟩
    obtain ⟨needed, hneeded⟩ := Option.isSome_iff_exists.mp hknown
    have hfilled : ¬ name.isEmpty = true := by
      intro hempty
      rw [String.isEmpty_iff.mp hempty] at hneeded
      cases hneeded
    unfold problems
    simp only [hname, hneeded, if_neg hfilled]
    exact bind_eq_error_iff.mpr (.inl (arguments_eq_error_iff.mpr ⟨hlong, rfl⟩))

/-! ## What is refused -/

/-- What fails only by refusing a value. -/
def Refuses (e : Except Breakdown α) : Prop := ∀ b, e = .error b → ∃ problem, b = .badValue problem

theorem Refuses.ok (a : α) : Refuses (.ok a) := by
  intro b h
  cases h

theorem Refuses.bind {x : Except Breakdown α} {f : α → Except Breakdown β} (hx : Refuses x)
    (hf : ∀ a, Refuses (f a)) : Refuses (x >>= f) := by
  intro b h
  rcases bind_eq_error_iff.mp h with h | ⟨a, _, h⟩
  · exact hx b h
  · exact hf a b h

theorem problems_refuses (spec : Data) : Refuses (problems spec) :=
  fun _ h => ⟨none, (problems_eq_error_iff.mp h).2⟩

theorem arguments_refuses (args : Data) : Refuses (arguments args) :=
  fun _ h => ⟨none, (arguments_eq_error_iff.mp h).2⟩

/-- A filter is built, or is refused. -/
theorem build_refuses (spec : Data) : Refuses (build spec).run.value := by
  unfold build
  rw [value_bind]
  refine (problems_refuses _).bind fun problems => ?_
  split
  · intro b h
    cases h
    exact ⟨_, rfl⟩
  · rw [value_bind]
    exact (arguments_refuses _).bind fun args => .ok _
  · intro b h
    cases h
    exact ⟨_, rfl⟩

/-- The filters of a chain are built one after the other. -/
theorem value_buildAll (specs : List Data) :
    (buildAll specs).run.value = specs.mapM fun spec => (build spec).run.value := by
  have hlawful := lawfulMonad_logged
  unfold buildAll
  induction specs with
  | nil => rfl
  | cons spec rest ih =>
      rw [List.mapM_cons, List.mapM_cons, value_bind]
      refine bind_congr fun filter => ?_
      rw [value_bind, ih]
      rfl

/-- **A chain of filters is built, or is refused**, whatever is written. -/
theorem buildAll_refuses (specs : List Data) : Refuses (buildAll specs).run.value := by
  intro b h
  rw [value_buildAll] at h
  obtain ⟨_, spec, _, _, _, hspec⟩ := mapM_eq_error_iff.mp h
  exact build_refuses spec b hspec

end Filter

end ReleaseSearch
