import ReleaseSearch.Proofs.Definition.Filters

/-!
# Shorthands

What a definition says in short can be spelled out: a path as a map with a path, the selector of a
field as a map with a selector, the name of a filter as a map with a name, and a single argument as
a list of one.  `SpellsOut may raw raw'` holds of a definition `raw` and of what becomes of it when
any number of shorthands that satisfy `may` are spelled out, wherever they stand.

A map is spelled out under its keys.  Only keys that are texts are ever looked up, and of several
equal ones the first, so maps are compared by what is found under a text.
-/

namespace ReleaseSearch.Definition

/-- A shorthand, with what there is to know about its place. -/
inductive Shorthand where
  /-- A text among the paths. -/
  | path (template : String)
  /-- A text as the single path, which may count or not. -/
  | singlePath (template : String) (counts : Prop)
  /-- The selector of a field, among fields that may lack one that is needed. -/
  | selector (selector : String) (lacks : Prop)
  /-- The name of a filter, in a field that may be ignored. -/
  | filter (name : String) (ignored : Prop)

/-! ## Spelling out -/

/-- Two maps with the same keys, and with values under each text that are related. -/
structure SpellsEntries (R : String → Data → Data → Prop) (es es' : Entries) : Prop where
  keys : es.map (·.1) = es'.map (·.1)
  values : ∀ key, R key ((Data.map es).valueAt key) ((Data.map es').valueAt key)

/-- Two maps with the same keys in the same places, and with values in each place that are
related. -/
def SpellsPlaces (R : Data → Data → Prop) : Entries → Entries → Prop :=
  List.Forall₂ fun entry entry' => entry.1 = entry'.1 ∧ R entry.2 entry'.2

/-- The single argument of a filter. -/
inductive SpellsArguments (key : String) : Data → Data → Prop
  | same (value : Data) : SpellsArguments key value value
  | single {value : Data} (hkey : key = "args") (hnull : value ≠ .null)
      (hlist : ∀ items, value ≠ .list items) : SpellsArguments key value (.list [value])

/-- The name of a filter, or its argument. -/
inductive SpellsFilter (may : String → Prop) : Data → Data → Prop
  | same (spec : Data) : SpellsFilter may spec spec
  | name {name : String} (h : may name) :
      SpellsFilter may (.text name) (.object [("name", .text name)])
  | arguments {es es' : Entries} (h : SpellsEntries SpellsArguments es es') :
      SpellsFilter may (.map es) (.map es')

/-- The filters of a field. -/
inductive SpellsFilters (may : String → Prop) (key : String) : Data → Data → Prop
  | same (value : Data) : SpellsFilters may key value value
  | filters {specs specs' : List Data} (hkey : key = "filters")
      (h : List.Forall₂ (SpellsFilter may) specs specs') :
      SpellsFilters may key (.list specs) (.list specs')

/-- A field without a selector is ignored. -/
def IsIgnored (es : Entries) : Prop := ¬ ((Data.map es).valueAt "selector").isPresent = true

/-- The selector of a field, or its filters. -/
inductive SpellsField (may : Shorthand → Prop) (lacks : Prop) : Data → Data → Prop
  | same (field : Data) : SpellsField may lacks field field
  | selector {selector : String} (h : may (.selector selector lacks)) :
      SpellsField may lacks (.text selector) (.object [("selector", .text selector)])
  | filters {es es' : Entries}
      (h : SpellsEntries (SpellsFilters fun name => may (.filter name (IsIgnored es))) es es') :
      SpellsField may lacks (.map es) (.map es')

/-- The template of a path. -/
inductive SpellsPath (may : String → Prop) : Data → Data → Prop
  | same (path : Data) : SpellsPath may path path
  | template {template : String} (h : may template) :
      SpellsPath may (.text template) (.object [("path", .text template)])

/-- Fields that lack one that is needed. -/
def Lacks (fields : Entries) : Prop := ∃ name ∈ requiredFields, hasField fields name = false

/-- The paths and the fields of a search; the single path may count or not. -/
inductive SpellsPart (may : Shorthand → Prop) (counts : Prop) (key : String) : Data → Data → Prop
  | same (value : Data) : SpellsPart may counts key value value
  | paths {paths paths' : List Data} (hkey : key = "paths")
      (h : List.Forall₂ (SpellsPath fun template => may (.path template)) paths paths') :
      SpellsPart may counts key (.list paths) (.list paths')
  | path {path path' : Data} (hkey : key = "path")
      (h : SpellsPath (fun template => may (.singlePath template counts)) path path') :
      SpellsPart may counts key path path'
  | fields {fields fields' : Entries} (hkey : key = "fields")
      (h : SpellsPlaces (SpellsField may (Lacks fields)) fields fields') :
      SpellsPart may counts key (.map fields) (.map fields')

/-- The single path counts if there are no paths. -/
def SinglePathCounts (search : Entries) : Prop := (Data.map search).valueAt "paths" = .null

/-- The search part of a definition. -/
inductive SpellsSearch (may : Shorthand → Prop) (key : String) : Data → Data → Prop
  | same (value : Data) : SpellsSearch may key value value
  | search {es es' : Entries} (hkey : key = "search")
      (h : SpellsEntries (SpellsPart may (SinglePathCounts es)) es es') :
      SpellsSearch may key (.map es) (.map es')

/-- **Shorthands of a definition are spelled out.** -/
inductive SpellsOut (may : Shorthand → Prop) : Data → Data → Prop
  | same (raw : Data) : SpellsOut may raw raw
  | parts {es es' : Entries} (h : SpellsEntries (SpellsSearch may) es es') :
      SpellsOut may (.map es) (.map es')

/-! ## Nothing spelled out -/

variable {may : Shorthand → Prop}

theorem SpellsOut.entries {es es' : Entries} (h : SpellsOut may (.map es) (.map es')) :
    SpellsEntries (SpellsSearch may) es es' := by
  cases h with
  | same => exact ⟨rfl, fun key => .same _⟩
  | parts h => exact h

theorem SpellsSearch.entries {key : String} {es es' : Entries}
    (h : SpellsSearch may key (.map es) (.map es')) :
    SpellsEntries (SpellsPart may (SinglePathCounts es)) es es' := by
  cases h with
  | same => exact ⟨rfl, fun key => .same _⟩
  | search _ h => exact h

theorem SpellsPart.places {counts : Prop} {fields fields' : Entries}
    (h : SpellsPart may counts "fields" (.map fields) (.map fields')) :
    SpellsPlaces (SpellsField may (Lacks fields)) fields fields' := by
  generalize hkey : "fields" = key at h
  cases h with
  | same => exact List.forall₂_same.mpr fun field _ => ⟨rfl, .same _⟩
  | path hpath => exact absurd (hkey.trans hpath) (by decide)
  | fields _ h => exact h

/-! ## Maps -/

theorem find?_eq_none_iff {key : String} {es : Entries} :
    Data.find? key es = none ↔ Data.text key ∉ es.map (·.1) := by
  fun_induction Data.find? key es with
  | case1 => simp
  | case2 k value rest hkey => simp [beq_iff_eq.mp hkey]
  | case3 k value rest hkey ih =>
      have hne : key ≠ k := fun h => hkey (beq_iff_eq.mpr h.symm)
      simp [ih, hne]
  | case4 entry rest hother ih =>
      have hne : Data.text key ≠ entry.1 := fun h => hother key entry.2 (Prod.ext h.symm rfl)
      simp [ih, hne]

namespace SpellsEntries

variable {R S : String → Data → Data → Prop} {es es' : Entries}

/-- Both maps are empty, or none is. -/
theorem isPresent_eq (h : SpellsEntries R es es') :
    (Data.map es).isPresent = (Data.map es').isPresent := by
  have hlength := congrArg List.length h.keys
  cases es <;> cases es' <;> simp_all [Data.isPresent]

/-- Where the values are equal, the same is found. -/
theorem find?_eq (h : SpellsEntries R es es') {key : String}
    (heq : ∀ v v', R key v v' → v = v') : Data.find? key es = Data.find? key es' := by
  have hvalue : (Data.find? key es).getD .null = (Data.find? key es').getD .null :=
    heq _ _ (h.values key)
  have hnone : Data.find? key es = none ↔ Data.find? key es' = none := by
    rw [find?_eq_none_iff, find?_eq_none_iff, h.keys]
  cases hfind : Data.find? key es with
  | none => exact (hnone.mp hfind).symm
  | some v =>
      cases hfind' : Data.find? key es' with
      | none => exact absurd (hnone.mpr hfind') (by simp [hfind])
      | some v' =>
          rw [hfind, hfind'] at hvalue
          exact congrArg some hvalue

theorem imp (h : SpellsEntries R es es')
    (himp : ∀ key, R key ((Data.map es).valueAt key) ((Data.map es').valueAt key) →
      S key ((Data.map es).valueAt key) ((Data.map es').valueAt key)) : SpellsEntries S es es' :=
  ⟨h.keys, fun key => himp key (h.values key)⟩

/-- Maps are spelled out if the values in each place are. -/
theorem of_forall₂ (hnull : ∀ key, R key .null .null)
    (h : List.Forall₂ (fun entry entry' => entry.1 = entry'.1 ∧
      ∀ key, entry.1 = .text key → R key entry.2 entry'.2) es es') : SpellsEntries R es es' := by
  induction h with
  | nil => exact ⟨rfl, hnull⟩
  | @cons entry entry' rest rest' hentry _ ih =>
      obtain ⟨k, value⟩ := entry
      obtain ⟨_, value'⟩ := entry'
      obtain ⟨rfl, hvalue⟩ := hentry
      refine ⟨congrArg (k :: ·) ih.keys, fun key => ?_⟩
      cases k with
      | text t =>
          by_cases hkey : t = key
          · subst hkey
            have hfind (v : Data) (others : Entries) :
                (Data.map ((.text t, v) :: others)).valueAt t = v := by
              simp [Data.valueAt, Data.get?, Data.find?]
            rw [hfind, hfind]
            exact hvalue t rfl
          · have hfind (v : Data) (others : Entries) :
                (Data.map ((.text t, v) :: others)).valueAt key =
                  (Data.map others).valueAt key := by
              simp [Data.valueAt, Data.get?, Data.find?, hkey]
            rw [hfind, hfind]
            exact ih.values key
      -- what is no text is never looked for
      | _ => exact ih.values key

end SpellsEntries

/-- What is found under a text stands in one place. -/
theorem SpellsPlaces.find?_cases {R : Data → Data → Prop} {es es' : Entries}
    (h : SpellsPlaces R es es') (key : String) :
    (Data.find? key es = none ∧ Data.find? key es' = none) ∨
      ∃ v v', Data.find? key es = some v ∧ Data.find? key es' = some v' ∧ R v v' := by
  induction h with
  | nil => exact .inl ⟨rfl, rfl⟩
  | @cons entry entry' rest rest' hentry _ ih =>
      obtain ⟨k, value⟩ := entry
      obtain ⟨k', value'⟩ := entry'
      obtain ⟨hkey, hvalue⟩ := hentry
      cases hkey
      cases k with
      | text t =>
          by_cases hkey : (t == key) = true
          · exact .inr ⟨value, value', if_pos hkey, if_pos hkey, hvalue⟩
          · rcases ih with ⟨hnone, hnone'⟩ | ⟨v, v', hfind, hfind', hR⟩
            · exact .inl ⟨(if_neg hkey).trans hnone, (if_neg hkey).trans hnone'⟩
            · exact .inr ⟨v, v', (if_neg hkey).trans hfind, (if_neg hkey).trans hfind', hR⟩
      | _ => exact ih

end ReleaseSearch.Definition
