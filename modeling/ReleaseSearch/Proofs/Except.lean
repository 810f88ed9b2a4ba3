import Mathlib.Data.List.Forall2

/-!
# Computations that may go wrong

A computation in `Except` goes on until a step of it goes wrong.  The lemmas here say when one that
has two steps, or one for each item of a list, ends well and when it does not: a list is gone
through up to the first item that goes wrong.
-/

namespace ReleaseSearch

variable {ε α β : Type}

theorem bind_eq_ok_iff {x : Except ε α} {f : α → Except ε β} {b : β} :
    x >>= f = .ok b ↔ ∃ a, x = .ok a ∧ f a = .ok b := by
  cases x with
  | ok a => simp [bind, Except.bind]
  | error e => simp [bind, Except.bind]

theorem bind_eq_error_iff {x : Except ε α} {f : α → Except ε β} {e : ε} :
    x >>= f = .error e ↔ x = .error e ∨ ∃ a, x = .ok a ∧ f a = .error e := by
  cases x with
  | ok a => simp [bind, Except.bind]
  | error e => simp [bind, Except.bind]

theorem map_eq_error_iff {f : α → β} {x : Except ε α} {e : ε} :
    f <$> x = .error e ↔ x = .error e := by
  cases x with
  | ok a => simp [Functor.map, Except.map]
  | error e => simp [Functor.map, Except.map]

theorem map_eq_ok_iff {f : α → β} {x : Except ε α} {b : β} :
    f <$> x = .ok b ↔ ∃ a, x = .ok a ∧ f a = b := by
  cases x with
  | ok a => simp [Functor.map, Except.map]
  | error e => simp [Functor.map, Except.map]

theorem mapError_eq_ok_iff {ε' : Type} {f : ε → ε'} {x : Except ε α} {a : α} :
    x.mapError f = .ok a ↔ x = .ok a := by
  cases x with
  | ok a' => simp [Except.mapError]
  | error e => simp [Except.mapError]

theorem mapError_eq_error_iff {ε' : Type} {f : ε → ε'} {x : Except ε α} {e' : ε'} :
    x.mapError f = .error e' ↔ ∃ e, x = .error e ∧ f e = e' := by
  cases x with
  | ok a => simp [Except.mapError]
  | error e => simp [Except.mapError]

/-- Going through a list ends well if each item does. -/
theorem mapM_eq_ok_iff {f : α → Except ε β} {items : List α} {results : List β} :
    items.mapM f = .ok results ↔ List.Forall₂ (fun a b => f a = .ok b) items results := by
  induction items generalizing results with
  | nil => cases results <;> simp [pure, Except.pure]
  | cons a items ih =>
      rw [List.mapM_cons, bind_eq_ok_iff]
      cases results with
      | nil => simp [bind_eq_ok_iff, pure, Except.pure]
      | cons b results =>
          rw [List.forall₂_cons, ← ih]
          constructor
          · rintro ⟨b', hfirst, hrest⟩
            obtain ⟨rest, hmap, heq⟩ := bind_eq_ok_iff.mp hrest
            cases heq
            exact ⟨hfirst, hmap⟩
          · rintro ⟨hfirst, hmap⟩
            exact ⟨b, hfirst, bind_eq_ok_iff.mpr ⟨results, hmap, rfl⟩⟩

/-- What is known of two items may be used to weaken how they are related. -/
theorem forall₂_imp_of_mem {R S : α → β → Prop} {items : List α} {others : List β}
    (h : List.Forall₂ R items others)
    (himp : ∀ item ∈ items, ∀ other ∈ others, R item other → S item other) :
    List.Forall₂ S items others := by
  induction h with
  | nil => exact .nil
  | cons hfirst _ ih =>
      refine .cons (himp _ List.mem_cons_self _ List.mem_cons_self hfirst) (ih ?_)
      exact fun item hitem other hother =>
        himp item (List.mem_cons_of_mem _ hitem) other (List.mem_cons_of_mem _ hother)

/-- Items that stand beside each other have the same places. -/
theorem forall₂_zipIdx {R : α → β → Prop} {items : List α} {others : List β}
    (h : List.Forall₂ R items others) (i : Nat) :
    List.Forall₂ (fun a b => R a.1 b.1 ∧ a.2 = b.2) (items.zipIdx i) (others.zipIdx i) := by
  induction h generalizing i with
  | nil => exact .nil
  | cons hfirst _ ih => exact .cons ⟨hfirst, rfl⟩ (ih (i + 1))

/-- Items that are related through something between them are related through a list of such. -/
theorem forall₂_exists_iff {γ : Type} {R : α → γ → Prop} {S : γ → β → Prop} {items : List α}
    {others : List β} :
    List.Forall₂ (fun item other => ∃ c, R item c ∧ S c other) items others ↔
      ∃ between, List.Forall₂ R items between ∧ List.Forall₂ S between others := by
  constructor
  · intro h
    induction h with
    | nil => exact ⟨[], .nil, .nil⟩
    | cons hfirst _ ih =>
        obtain ⟨c, hleft, hright⟩ := hfirst
        obtain ⟨between, hlefts, hrights⟩ := ih
        exact ⟨c :: between, .cons hleft hlefts, .cons hright hrights⟩
  · rintro ⟨between, hlefts, hrights⟩
    induction hlefts generalizing others with
    | nil =>
        cases hrights
        exact .nil
    | cons hleft _ ih =>
        cases hrights with
        | cons hright hrights => exact .cons ⟨_, hleft, hright⟩ (ih hrights)

/-- Lists are gone through alike if their items are. -/
theorem mapM_eq_of_forall₂ {m : Type → Type} [Monad m] [LawfulMonad m] {γ : Type} {f : α → m γ}
    {g : β → m γ} {items : List α} {others : List β}
    (h : List.Forall₂ (fun a b => f a = g b) items others) : items.mapM f = others.mapM g := by
  induction h with
  | nil => rfl
  | cons hfirst _ ih => rw [List.mapM_cons, List.mapM_cons, hfirst, ih]

theorem length_of_mapM_ok {f : α → Except ε β} {items : List α} {results : List β}
    (h : items.mapM f = .ok results) : items.length = results.length :=
  (mapM_eq_ok_iff.mp h).length_eq

/-- Each item of a list stands beside one of the other list. -/
theorem exists_mem_of_forall₂ {R : α → β → Prop} {items : List α} {results : List β}
    (h : List.Forall₂ R items results) {item : α} (hmem : item ∈ items) :
    ∃ b ∈ results, R item b := by
  induction h with
  | nil => cases hmem
  | cons hfirst _ ih =>
      rcases List.mem_cons.mp hmem with rfl | hmem
      · exact ⟨_, List.mem_cons_self, hfirst⟩
      · obtain ⟨b, hb, hitem⟩ := ih hmem
        exact ⟨b, List.mem_cons_of_mem _ hb, hitem⟩

/-- It stands beside the one at its own place. -/
theorem exists_getElem?_of_forall₂ {R : α → β → Prop} {items : List α} {results : List β}
    (h : List.Forall₂ R items results) {i : Nat} {item : α} (hitem : items[i]? = some item) :
    ∃ b, results[i]? = some b ∧ R item b := by
  induction h generalizing i with
  | nil => cases hitem
  | cons hfirst _ ih =>
      cases i with
      | zero =>
          cases hitem
          exact ⟨_, rfl, hfirst⟩
      | succ i => exact ih hitem

/-- Each item of a list that was gone through has a result. -/
theorem exists_of_mapM_ok {f : α → Except ε β} {items : List α} {results : List β}
    (h : items.mapM f = .ok results) {item : α} (hmem : item ∈ items) :
    ∃ b ∈ results, f item = .ok b :=
  exists_mem_of_forall₂ (mapM_eq_ok_iff.mp h) hmem

/-- Going through a list goes wrong with the first item that does. -/
theorem mapM_eq_error_iff {f : α → Except ε β} {items : List α} {e : ε} :
    items.mapM f = .error e ↔ ∃ before item after, items = before ++ item :: after ∧
      (∀ a ∈ before, ∃ b, f a = .ok b) ∧ f item = .error e := by
  induction items with
  | nil => simp [pure, Except.pure]
  | cons a items ih =>
      rw [List.mapM_cons, bind_eq_error_iff]
      constructor
      · rintro (hfirst | ⟨b, hfirst, hrest⟩)
        · exact ⟨[], a, items, rfl, by simp, hfirst⟩
        · rcases bind_eq_error_iff.mp hrest with hrest | ⟨_, _, h⟩
          · obtain ⟨before, item, after, rfl, hbefore, hitem⟩ := ih.mp hrest
            refine ⟨a :: before, item, after, rfl, ?_, hitem⟩
            exact List.forall_mem_cons.mpr ⟨⟨b, hfirst⟩, hbefore⟩
          · cases h
      · rintro ⟨before, item, after, hsplit, hbefore, hitem⟩
        cases before with
        | nil =>
            obtain ⟨rfl, rfl⟩ := List.cons.inj hsplit
            exact .inl hitem
        | cons a' before =>
            obtain ⟨rfl, rfl⟩ := List.cons.inj hsplit
            obtain ⟨⟨b, hfirst⟩, hbefore⟩ := List.forall_mem_cons.mp hbefore
            refine .inr ⟨b, hfirst, bind_eq_error_iff.mpr (.inl ?_)⟩
            exact ih.mpr ⟨before, item, after, rfl, hbefore, hitem⟩

/-- Going through a list goes wrong if some item does. -/
theorem mapM_fails_iff {f : α → Except ε β} {items : List α} :
    (∃ e, items.mapM f = .error e) ↔ ∃ item ∈ items, ∃ e, f item = .error e := by
  constructor
  · rintro ⟨e, h⟩
    obtain ⟨before, item, after, rfl, _, hitem⟩ := mapM_eq_error_iff.mp h
    exact ⟨item, by simp, e, hitem⟩
  · rintro ⟨item, hmem, e, hitem⟩
    cases h : items.mapM f with
    | error e' => exact ⟨e', rfl⟩
    | ok results =>
        obtain ⟨b, _, hb⟩ := exists_of_mapM_ok h hmem
        rw [hitem] at hb
        cases hb

/-- It ends well if each item does. -/
theorem exists_mapM_ok_iff {f : α → Except ε β} {items : List α} :
    (∃ results, items.mapM f = .ok results) ↔ ∀ item ∈ items, ∃ b, f item = .ok b := by
  constructor
  · rintro ⟨results, h⟩ item hmem
    obtain ⟨b, _, hb⟩ := exists_of_mapM_ok h hmem
    exact ⟨b, hb⟩
  · intro hall
    cases h : items.mapM f with
    | ok results => exact ⟨results, rfl⟩
    | error e =>
        obtain ⟨item, hmem, e', hitem⟩ := mapM_fails_iff.mp ⟨e, h⟩
        obtain ⟨b, hb⟩ := hall item hmem
        cases hb.symm.trans hitem

/-- Going through a list with a state goes wrong with the first item that does. -/
theorem foldlM_eq_error_iff {f : β → α → Except ε β} {b : β} {items : List α} {e : ε} :
    items.foldlM f b = .error e ↔ ∃ before item after b', items = before ++ item :: after ∧
      before.foldlM f b = .ok b' ∧ f b' item = .error e := by
  induction items generalizing b with
  | nil => simp [pure, Except.pure]
  | cons a items ih =>
      rw [List.foldlM_cons, bind_eq_error_iff]
      constructor
      · rintro (hfirst | ⟨b₁, hfirst, hrest⟩)
        -- the first step fails, or one of the rest does
        · exact ⟨[], a, items, b, rfl, rfl, hfirst⟩
        · obtain ⟨before, item, after, b', rfl, hbefore, hitem⟩ := ih.mp hrest
          refine ⟨a :: before, item, after, b', rfl, ?_, hitem⟩
          rw [List.foldlM_cons, bind_eq_ok_iff]
          exact ⟨b₁, hfirst, hbefore⟩
      · rintro ⟨before, item, after, b', hsplit, hbefore, hitem⟩
        cases before with
        | nil =>
            obtain ⟨rfl, rfl⟩ := List.cons.inj hsplit
            cases hbefore
            exact .inl hitem
        | cons a' before =>
            obtain ⟨rfl, rfl⟩ := List.cons.inj hsplit
            rw [List.foldlM_cons, bind_eq_ok_iff] at hbefore
            obtain ⟨b₁, hfirst, hrest⟩ := hbefore
            exact .inr ⟨b₁, hfirst, ih.mpr ⟨before, item, after, b', rfl, hrest, hitem⟩⟩

end ReleaseSearch
