import ReleaseSearch.Schema.Check

/-!
# Checks of what was written

A record is read field by field, and each field by a check of its own.  The lemmas here say which
data a check lets through unchanged: a value that is written in its own kind of data always fits.
-/

namespace ReleaseSearch.Schema

variable {α β : Type}

/-! ## Combining checks that fit -/

namespace Check

@[simp] theorem map_fits (f : α → β) (a : α) : f <$> (fits a : Check α) = fits (f a) := rfl

@[simp] theorem seq_fits (f : α → β) (a : α) : (fits f : Check (α → β)) <*> fits a = fits (f a) :=
  rfl

@[simp] theorem under_fits (step : Step) (a : α) : (fits a : Check α).under step = fits a := rfl

@[simp] theorem andThen_fits (a : α) (f : α → Check β) : (fits a).andThen f = f a := rfl

theorem map_eq_fits_iff {f : α → β} {x : Check α} {b : β} :
    f <$> x = .fits b ↔ ∃ a, x = .fits a ∧ f a = b := by
  cases x with
  | fits a => simp
  | fails ps =>
      constructor
      · intro h
        cases h
      · rintro ⟨a, h, _⟩
        cases h

/-- Checks that are combined fit if both do. -/
theorem seq_eq_fits_iff {f : Check (α → β)} {x : Check α} {b : β} :
    f <*> x = .fits b ↔ ∃ g a, f = .fits g ∧ x = .fits a ∧ g a = b := by
  constructor
  · intro h
    cases f with
    | fits g =>
        cases x with
        | fits a => exact ⟨g, a, rfl, rfl, fits.inj h⟩
        | fails ps => cases h
    | fails ps => cases x <;> cases h
  · rintro ⟨g, a, rfl, rfl, rfl⟩
    rfl

theorem under_eq_fits_iff {step : Step} {x : Check α} {a : α} :
    x.under step = .fits a ↔ x = .fits a := by
  cases x with
  | fits a' => rfl
  | fails ps =>
      constructor
      · intro h
        cases h
      · intro h
        cases h

/-- A check that goes on fits if both parts do. -/
theorem andThen_eq_fits_iff {x : Check α} {f : α → Check β} {b : β} :
    x.andThen f = .fits b ↔ ∃ a, x = .fits a ∧ f a = .fits b := by
  cases x with
  | fits a => simp [andThen]
  | fails problems => simp [andThen]

end Check

/-- A field that has to be there fits if its value does. -/
theorem need_fits {es : Entries} {key : String} {check : Data → Check α} {d : Data} {a : α}
    (hfind : Data.find? key es = some d) (hfits : check d = .fits a) :
    need es key check = .fits a := by
  unfold need
  rw [hfind]
  show (check d).under (.key key) = .fits a
  rw [hfits, Check.under_fits]

/-- A field that fits is there. -/
theorem exists_of_need_fits {es : Entries} {key : String} {check : Data → Check α} {a : α}
    (h : need es key check = .fits a) : ∃ d, Data.find? key es = some d ∧ check d = .fits a := by
  unfold need at h
  cases hfind : Data.find? key es with
  | none =>
      rw [hfind] at h
      cases h
  | some d =>
      rw [hfind] at h
      exact ⟨d, rfl, Check.under_eq_fits_iff.mp h⟩

/-- A field that may be missing fits if its value does. -/
theorem take_fits {es : Entries} {key : String} {default : α} {check : Data → Check α} {d : Data}
    {a : α} (hfind : Data.find? key es = some d) (hfits : check d = .fits a) :
    take es key default check = .fits a := by
  unfold take
  rw [hfind]
  show (check d).under (.key key) = .fits a
  rw [hfits, Check.under_fits]

/-- The value of a field that is there fits. -/
theorem fits_of_take {es : Entries} {key : String} {default a : α} {check : Data → Check α}
    {d : Data} (hfind : Data.find? key es = some d) (h : take es key default check = .fits a) :
    check d = .fits a := by
  unfold take at h
  rw [hfind] at h
  exact Check.under_eq_fits_iff.mp h

/-- A field that fits, and not as what it is when it is missing, is there. -/
theorem exists_of_take_fits {es : Entries} {key : String} {default a : α} {check : Data → Check α}
    (hne : a ≠ default) (h : take es key default check = .fits a) :
    ∃ d, Data.find? key es = some d ∧ check d = .fits a := by
  cases hfind : Data.find? key es with
  | none =>
      unfold take at h
      rw [hfind] at h
      exact absurd (Check.fits.inj h).symm hne
  | some d => exact ⟨d, rfl, fits_of_take hfind h⟩

/-! ## Several values -/

theorem checkItems_eq_fits_length {check : Data → Check α} {i : Nat} {items : List Data}
    {as : List α} (h : checkItems check i items = .fits as) : as.length = items.length := by
  induction items generalizing i as with
  | nil =>
      cases h
      rfl
  | cons item rest ih =>
      obtain ⟨g, others, hg, hothers, rfl⟩ := Check.seq_eq_fits_iff.mp h
      obtain ⟨a, _, rfl⟩ := Check.map_eq_fits_iff.mp hg
      simpa using ih hothers

/-- A tuple has as many values as there are items. -/
theorem length_of_tuple_fits {check : Data → Check α} {items : List Data} {as : List α}
    (h : tuple check (.list items) = .fits as) : as.length = items.length :=
  checkItems_eq_fits_length h

theorem ne_nil_of_tuple_fits {check : Data → Check α} {items : List Data} {as : List α}
    (h : tuple check (.list items) = .fits as) (hne : items ≠ []) : as ≠ [] := by
  rintro rfl
  exact hne (List.length_eq_zero_iff.mp (length_of_tuple_fits h).symm)

/-- Pairs of texts are read as they are. -/
theorem tuple_pair_text (pairs : List (String × String)) :
    tuple (pair text text) (.list (pairs.map fun p => .list [.text p.1, .text p.2])) =
      .fits pairs := by
  suffices h : ∀ i, checkItems (pair text text) i
      (pairs.map fun p => .list [.text p.1, .text p.2]) = .fits pairs from h 0
  induction pairs with
  | nil => exact fun i => rfl
  | cons p rest ih =>
      intro i
      rw [List.map_cons]
      unfold checkItems
      rw [ih]
      rfl

/-! ## Values in their own kind of data -/

@[simp] theorem text_text (s : String) : text (.text s) = .fits s := rfl

@[simp] theorem int_int (n : Int) : int (.int n) = .fits n := rfl

@[simp] theorem bool_bool (b : Bool) : bool (.bool b) = .fits b := rfl

theorem filledText_text {s : String} (h : s ≠ "") : filledText (.text s) = .fits s := by
  unfold filledText
  rw [text_text, Check.andThen_fits, if_neg]
  rwa [String.isEmpty_iff]

/-- A text that fits is not empty. -/
theorem ne_of_filledText_fits {d : Data} {s : String} (h : filledText d = .fits s) : s ≠ "" := by
  unfold filledText at h
  cases htext : text d with
  | fails ps =>
      rw [htext] at h
      cases h
  | fits s' =>
      rw [htext, Check.andThen_fits] at h
      by_cases hempty : s'.isEmpty
      · rw [if_pos hempty] at h
        cases h
      · rw [if_neg hempty] at h
        cases h
        rwa [String.isEmpty_iff] at hempty

@[simp] theorem natural_int (n : Nat) : natural (.int n) = .fits n := by
  unfold natural intFrom
  rw [int_int, Check.andThen_fits, if_neg (by omega)]
  rfl

/-- A value that may be missing is written as null then, and null is read as a missing value. -/
theorem nullable_optional {encode : α → Data} {check : Data → Check α}
    {value : Option α} (hnull : ∀ a, encode a ≠ .null)
    (hfits : ∀ a ∈ value, check (encode a) = .fits a) :
    nullable check (.optional encode value) = .fits value := by
  cases value with
  | none => rfl
  | some a =>
      show nullable check (encode a) = .fits (some a)
      have hunfold : nullable check (encode a) = (check (encode a)).map some := by
        unfold nullable
        split
        · next h => exact absurd h (hnull a)
        · rfl
      rw [hunfold, hfits a rfl]
      rfl

/-- A number that fits is from zero on. -/
theorem nonneg_of_floatFromZero_fits {d : Data} {x : Float} (h : floatFromZero d = .fits x) :
    0 ≤ x := by
  obtain ⟨y, _, hy⟩ := Check.andThen_eq_fits_iff.mp h
  split at hy
  · next hnonneg =>
      cases hy
      exact hnonneg
  · cases hy

/-- What is not null fits as a value. -/
theorem nullable_eq_fits_iff {check : Data → Check α} {d : Data} (hd : d ≠ .null) {r : Option α} :
    nullable check d = .fits r ↔ ∃ a, check d = .fits a ∧ r = some a := by
  have hmap : nullable check d = (check d).map some := by
    unfold nullable
    split
    · exact absurd rfl hd
    · rfl
  rw [hmap]
  cases check d with
  | fits a => simp [Check.map, eq_comm]
  | fails problems => simp [Check.map]

/-- A map with texts as keys is read as the entries that it was made of. -/
theorem freeDictionary_object (es : List (String × Data)) :
    freeDictionary (.object es) = .fits es := by
  show checkEntries (fun v => .fits v) (es.map fun e => (Data.text e.1, e.2)) = .fits es
  induction es with
  | nil => rfl
  | cons e rest ih =>
      rw [List.map_cons]
      unfold checkEntries
      rw [ih]
      rfl

end ReleaseSearch.Schema
