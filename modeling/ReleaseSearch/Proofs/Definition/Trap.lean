import ReleaseSearch.Proofs.Definition.Written

/-!
# Traps

What is written as a definition may be anything.  Most of what is wrong with it is found, or is
refused while it is read.  A *trap* is written data that neither is ready for: looking at it breaks
down.  Each trap here is a condition on the written data alone, with a lemma that says that looking
at the data breaks down there and nowhere else.
-/

namespace ReleaseSearch

/-- A number with too many digits is not absent. -/
theorem Data.isPresent_of_not_isWritable {d : Data} (h : ¬ d.isWritable = true) :
    d.isPresent = true := by
  by_contra habsent
  cases d with
  | int n =>
      have hzero : n = 0 := by simpa [isPresent] using habsent
      have hpos : ∀ n, 0 < Nat.pow 10 n := fun n => Nat.pow_pos (by decide)
      rw [hzero] at h
      simp only [isWritable, Int.natAbs_zero, decide_eq_true_eq] at h
      exact h (hpos Decimal.digitLimit)
  | list items =>
      cases items with
      | nil => exact h rfl
      | cons item rest => exact habsent rfl
  | set items =>
      cases items with
      | nil => exact h rfl
      | cons item rest => exact habsent rfl
  | map es =>
      cases es with
      | nil => exact h rfl
      | cons entry rest => exact habsent rfl
  | _ => exact h rfl

namespace Definition

variable {α : Type}

/-! ## Breaking down -/

/-- A computation breaks down. -/
def Fails (e : Except Breakdown α) : Prop := ∃ b, e = .error b

/-- A computation breaks down other than by refusing a value. -/
def Escapes (e : Except Breakdown α) : Prop := ∃ b, e = .error b ∧ ∀ problem, b ≠ .badValue problem

theorem not_fails_ok (a : α) : ¬ Fails (.ok a) := by
  rintro ⟨b, h⟩
  cases h

theorem fails_bind_iff {β : Type} {x : Except Breakdown α} {f : α → Except Breakdown β} :
    Fails (x >>= f) ↔ Fails x ∨ ∃ a, x = .ok a ∧ Fails (f a) := by
  cases x with
  | ok a => simp [Fails]
  | error b => simp [Fails]

/-- One computation breaks down, or the other, where both are made. -/
theorem fails_both_iff {β γ : Type} {x : Except Breakdown α} {y : Except Breakdown β}
    {f : α → β → γ} :
    Fails (x >>= fun a => y >>= fun b => .ok (f a b)) ↔ Fails x ∨ Fails y := by
  cases x with
  | error b => simp [Fails]
  | ok a =>
      cases y with
      | error b => simp [Fails]
      | ok b => simp [Fails]

theorem fails_inWords_iff {d : Data} : Fails d.inWords ↔ ¬ d.isWritable = true := by
  simp [Fails, Data.inWords_eq_error_iff]

/-- A text about a value is found unless the value cannot be put in words. -/
theorem fails_about_iff {d : Data} {f : String → α} :
    Fails (d.inWords >>= fun text => .ok (f text)) ↔ ¬ d.isWritable = true := by
  rw [fails_bind_iff, fails_inWords_iff]
  exact or_iff_left fun ⟨_, _, h⟩ => not_fails_ok _ h

theorem fails_contents_iff {d : Data} :
    Fails (contents d) ↔ d.isPresent = true ∧ d.contents? = none := by
  unfold contents
  by_cases hpresent : d.isPresent = true
  · simp only [hpresent, Bool.not_true, Bool.false_eq_true, if_false, true_and]
    cases d.contents? with
    | none => simp [Fails]
    | some items => simp [Fails]
  · simp [hpresent, Fails]

theorem escapes_bind_iff {β : Type} {x : Except Breakdown α} {f : α → Except Breakdown β} :
    Escapes (x >>= f) ↔ Escapes x ∨ ∃ a, x = .ok a ∧ Escapes (f a) := by
  cases x with
  | ok a => simp [Escapes]
  | error b => simp [Escapes]

theorem not_escapes_of_refuses {e : Except Breakdown α} (h : Filter.Refuses e) : ¬ Escapes e := by
  rintro ⟨b, hb, hescapes⟩
  obtain ⟨problem, rfl⟩ := h b hb
  exact hescapes problem rfl

/-! ## The unit -/

theorem fails_unitFindings_iff {unit : Data} :
    Fails (unitFindings unit) ↔ ¬ unit.isWritable = true := by
  unfold unitFindings
  split
  · simp [not_fails_ok, Data.isWritable]
  · refine fails_bind_iff.trans ?_
    rw [show Fails (Delay.unitName unit) ↔ _ from fails_about_iff]
    refine or_iff_left ?_
    rintro ⟨name, _, h⟩
    split at h <;> exact not_fails_ok _ h

/-! ## Paths -/

/-- Paths that cannot be gone through, or one whose method cannot be put in words. -/
inductive PathTrap (search : Data) : Prop
  | contents (h : (search.valueAt "paths").isPresent = true)
      (hnone : (search.valueAt "paths").contents? = none)
  | method {paths : List Data} {es : Entries}
      (hpaths : writtenPaths search >>= Definition.contents = .ok paths) (hmem : .map es ∈ paths)
      (h : ((Data.map es).valueAt "path").isPresent = true)
      (hmethod : ¬ ((Data.map es).valueAt "method").isWritable = true)

theorem fails_pathFinding?_iff {index : Nat} {path : Data} :
    Fails (pathFinding? index path) ↔
      ∃ es, path = .map es ∧ ((Data.map es).valueAt "path").isPresent = true ∧
        ¬ ((Data.map es).valueAt "method").isWritable = true := by
  constructor
  · intro h
    unfold pathFinding? at h
    split at h
    · exact absurd h (not_fails_ok _)
    · next es =>
      dsimp only at h
      split at h
      · exact absurd h (not_fails_ok _)
      · next hpath =>
        have hpath : ((Data.map es).valueAt "path").isPresent = true := by
          simpa [Data.valueAt, Data.get?] using hpath
        split at h
        -- only the method is put in words, and that can fail
        · rcases fails_bind_iff.mp h with h | ⟨name, _, h⟩
          · exact ⟨es, rfl, hpath, fails_inWords_iff.mp h⟩
          · split at h <;> exact absurd h (not_fails_ok _)
        · exact absurd h (not_fails_ok _)
    · exact absurd h (not_fails_ok _)
  · rintro ⟨es, rfl, hpath, hmethod⟩
    have hpath : ((Data.find? "path" es).getD .null).isPresent = true := hpath
    have hpresent : ((Data.find? "method" es).getD .null).isPresent = true :=
      Data.isPresent_of_not_isWritable hmethod
    unfold pathFinding?
    simp only [hpath, Bool.not_true, Bool.false_eq_true, if_false, hpresent, if_true]
    exact fails_bind_iff.mpr (.inl (fails_inWords_iff.mpr hmethod))

/-- A single path can always be gone through, and so can none. -/
theorem fails_writtenPaths_iff {es : Entries} :
    Fails (writtenPaths (.map es) >>= contents) ↔
      ((Data.map es).valueAt "paths").isPresent = true ∧
        ((Data.map es).valueAt "paths").contents? = none := by
  by_cases hnull : (Data.map es).valueAt "paths" = .null
  · rw [writtenPaths_of_null hnull, hnull]
    exact iff_of_false (not_fails_ok _) fun h => Bool.false_ne_true h.1
  · rw [writtenPaths_of_ne_null hnull]
    exact fails_contents_iff

theorem fails_pathFindings_iff {es : Entries} :
    Fails (pathFindings (.map es)) ↔ PathTrap (.map es) := by
  rw [pathFindings_eq, fails_bind_iff, fails_writtenPaths_iff]
  constructor
  · rintro (⟨hpresent, hnone⟩ | ⟨paths, hpaths, h⟩)
    -- Either the paths cannot be gone through, or one of them has a method that cannot be looked
    -- at.
    · exact .contents hpresent hnone
    · split at h
      · exact absurd h (not_fails_ok _)
      · rcases fails_bind_iff.mp h with h | ⟨_, _, h⟩
        · obtain ⟨⟨path, index⟩, hmem, hpath⟩ := mapM_fails_iff.mp h
          obtain ⟨es, rfl, hpresent, hmethod⟩ := fails_pathFinding?_iff.mp hpath
          exact .method hpaths (List.fst_mem_of_mem_zipIdx hmem) hpresent hmethod
        · exact absurd h (not_fails_ok _)
  · rintro (⟨hpresent, hnone⟩ | @⟨paths, entries, hpaths, hmem, hpresent, hmethod⟩)
    · exact .inl ⟨hpresent, hnone⟩
    · refine .inr ⟨paths, hpaths, ?_⟩
      rw [if_neg (by simpa using List.ne_nil_of_mem hmem)]
      obtain ⟨index, hindex⟩ := List.mem_iff_getElem?.mp hmem
      have hindexed : (.map entries, index) ∈ paths.zipIdx :=
        List.mem_zipIdx_iff_getElem?.mpr hindex
      have hpath : Fails (pathFinding? index (.map entries)) :=
        fails_pathFinding?_iff.mpr ⟨entries, rfl, hpresent, hmethod⟩
      exact fails_bind_iff.mpr (.inl (mapM_fails_iff.mpr ⟨_, hindexed, hpath⟩))

/-! ## Fields -/

/-- A field with a filter whose arguments cannot be put in words. -/
def HasLongFilter (field : Data) : Prop :=
  ∃ es specs spec, field = .map es ∧
    orElse ((Data.map es).valueAt "filters") (.list []) = .list specs ∧ spec ∈ specs ∧
    Filter.HasLongArgument spec

/-- A field with such a filter, or one that does not fit and whose name cannot be put in words. -/
def FieldTrap (field : Data × Data) : Prop :=
  HasLongFilter field.2 ∨ (¬ FieldFits field.2 ∧ ¬ field.1.isWritable = true)

/-- A field that is no text, and no map with a list of filters, is a trap if its name is. -/
theorem fieldTrap_iff_of_unfit {name field : Data} (htext : ∀ selector, field ≠ .text selector)
    (hlist : ∀ es specs, field = .map es →
      orElse ((Data.map es).valueAt "filters") (.list []) ≠ .list specs) :
    FieldTrap (name, field) ↔ ¬ name.isWritable = true := by
  have hshort : ¬ HasLongFilter field := fun ⟨es, specs, _, hmap, hfilters, _⟩ =>
    hlist es specs hmap hfilters
  have hunfit : ¬ FieldFits field := by
    rintro (⟨selector⟩ | ⟨hfilters, _⟩)
    · exact htext selector rfl
    · exact hlist _ _ rfl hfilters
  unfold FieldTrap
  rw [or_iff_right hshort, and_iff_right hunfit]

/-- A list of filters breaks down with a long argument, and with a problem that cannot be told. -/
theorem fails_filterFindings_iff {name : Data} {es : Entries} {specs : List Data}
    (hfilters : orElse ((Data.map es).valueAt "filters") (.list []) = .list specs) :
    Fails (specs.mapM Filter.problems >>= fun problems => problems.flatten.mapM fun problem =>
      name.inWords >>= fun text => .ok ("Field '" ++ text ++ "': " ++ problem)) ↔
      FieldTrap (name, .map es) := by
  rw [fails_bind_iff]
  constructor
  · rintro (h | ⟨problems, hproblems, h⟩)
    · obtain ⟨spec, hmem, b, hb⟩ := mapM_fails_iff.mp h
      obtain ⟨hlong, _⟩ := Filter.problems_eq_error_iff.mp hb
      exact .inl ⟨es, specs, spec, rfl, hfilters, hmem, hlong⟩
    · obtain ⟨problem, hmem, h⟩ := mapM_fails_iff.mp h
      refine .inr ⟨fun hfits => ?_, fails_about_iff.mp h⟩
      -- In a field that fits no filter has a problem, so there would be none to tell.
      obtain ⟨ofSpec, hofSpec, hproblem⟩ := List.mem_flatten.mp hmem
      have hnone : specs.mapM Filter.problems = .ok (specs.map fun _ => []) := by
        cases hfits with
        | map hfilters' hspecs =>
            cases hfilters'.symm.trans hfilters
            exact mapM_eq_ok_iff.mpr
              (List.forall₂_map_right_iff.mpr (List.forall₂_same.mpr hspecs))
      rw [hproblems] at hnone
      rw [Except.ok.inj hnone] at hofSpec
      obtain ⟨_, _, rfl⟩ := List.mem_map.mp hofSpec
      cases hproblem
  · rintro (⟨es', specs', spec, hmap, hfilters', hmem, hlong⟩ | ⟨hunfit, hname⟩)
    · cases hmap
      cases hfilters'.symm.trans hfilters
      exact .inl (mapM_fails_iff.mpr
        ⟨spec, hmem, _, Filter.problems_eq_error_iff.mpr ⟨hlong, rfl⟩⟩)
    · cases hproblems : specs.mapM Filter.problems with
      | error b => exact .inl ⟨b, rfl⟩
      | ok problems =>
          refine .inr ⟨problems, rfl, ?_⟩
          -- A field without problems would fit, so there is one to be told under its name.
          have hsome : problems.flatten ≠ [] := by
            intro hnone
            refine hunfit (.map hfilters fun spec hspec => ?_)
            obtain ⟨ofSpec, hmem, hofSpec⟩ := exists_of_mapM_ok hproblems hspec
            rw [hofSpec, List.flatten_eq_nil_iff.mp hnone ofSpec hmem]
          obtain ⟨problem, hmem⟩ := List.exists_mem_of_ne_nil _ hsome
          exact mapM_fails_iff.mpr ⟨problem, hmem, fails_about_iff.mpr hname⟩

theorem fails_fieldFindings_iff {name field : Data} :
    Fails (fieldFindings name field) ↔ FieldTrap (name, field) := by
  unfold fieldFindings
  split
  · refine iff_of_false (not_fails_ok _) ?_
    rintro (⟨_, _, _, hmap, _⟩ | ⟨hunfit, _⟩)
    · cases hmap
    · exact hunfit (.text _)
  · split
    · next specs hfilters => exact fails_filterFindings_iff hfilters
    · next hother =>
      refine fails_about_iff.trans (fieldTrap_iff_of_unfit ?_ ?_).symm
      · rintro selector ⟨⟩
      · rintro es specs ⟨⟩ hfilters
        exact hother specs hfilters
  · next htext hmap =>
    exact fails_about_iff.trans
      (fieldTrap_iff_of_unfit htext fun es _ h => absurd h (hmap es)).symm

theorem fails_allFieldFindings_iff {search : Data} :
    Fails (allFieldFindings search) ↔
      ∃ fields, search.valueAt "fields" = .map fields ∧ ∃ field ∈ fields, FieldTrap field := by
  unfold allFieldFindings
  split
  · next fields hfields =>
    have hsame : search.valueAt "fields" = .map fields := hfields
    rw [hsame, fails_bind_iff, or_iff_left fun ⟨_, _, h⟩ => not_fails_ok _ h]
    rw [show Fails (fields.mapM fun field => fieldFindings field.1 field.2) ↔ _ from mapM_fails_iff]
    constructor
    · rintro ⟨field, hmem, h⟩
      exact ⟨fields, rfl, field, hmem, fails_fieldFindings_iff.mp h⟩
    · rintro ⟨_, ⟨⟩, field, hmem, h⟩
      exact ⟨field, hmem, fails_fieldFindings_iff.mpr h⟩
  · next hother =>
    exact iff_of_false (not_fails_ok _) fun ⟨fields, hfields, _⟩ => hother fields hfields

/-! ## The whole -/

/-- A trap among the paths or the fields. -/
inductive SearchTrap (search : Data) : Prop
  | path (h : PathTrap search)
  | field {fields : Entries} {field : Data × Data} (hfields : search.valueAt "fields" = .map fields)
      (hmem : field ∈ fields) (h : FieldTrap field)

/-- There are traps in a map only. -/
theorem SearchTrap.isMap {search : Data} (h : SearchTrap search) : ∃ es, search = .map es := by
  cases search with
  | map es => exact ⟨es, rfl⟩
  | _ => rcases h with (⟨⟨⟩, _⟩ | ⟨⟨⟩, _, _, _⟩) | ⟨⟨⟩, _, _⟩

theorem fails_searchFindings_iff {search : Data} :
    Fails (searchFindings search) ↔ SearchTrap search := by
  unfold searchFindings
  split
  · refine fails_both_iff.trans ?_
    rw [fails_pathFindings_iff, fails_allFieldFindings_iff]
    constructor
    · rintro (h | ⟨fields, hfields, field, hmem, h⟩)
      · exact .path h
      · exact .field hfields hmem h
    · rintro (h | ⟨hfields, hmem, h⟩)
      · exact .inl h
      · exact .inr ⟨_, hfields, _, hmem, h⟩
  · next hother =>
    refine iff_of_false (not_fails_ok _) fun h => ?_
    obtain ⟨es, hmap⟩ := h.isMap
    exact hother es hmap

/-- **Looking at the shape breaks down at these traps**, and only where the parts are there. -/
theorem fails_findings_iff {raw : Data} :
    Fails (findings raw) ↔ HasParts raw ∧
      (¬ (raw.valueAt "request_delay_unit").isWritable = true ∨
        SearchTrap (raw.valueAt "search")) := by
  by_cases hparts : HasParts raw
  · rw [findings_of_parts hparts, and_iff_right hparts, ← fails_unitFindings_iff,
      ← fails_searchFindings_iff]
    exact fails_both_iff
  · obtain ⟨text, texts, hfindings⟩ := findings_of_missing hparts
    rw [hfindings]
    exact iff_of_false (not_fails_ok _) fun h => hparts h.1

/-! ## Headers and inputs -/

/-- A list that cannot be gone through, or in which an item breaks down before any other goes
wrong. -/
inductive ItemTrap (read : Data → Except Breakdown α) (breaks : Data → Prop) (d : Data) : Prop
  | contents (h : d.isPresent = true) (hnone : d.contents? = none)
  | item {before after : List Data} {item : Data}
      (h : Definition.contents d = .ok (before ++ item :: after))
      (hbefore : ∀ other ∈ before, ∃ a, read other = .ok a) (hitem : breaks item)

theorem escapes_mapM_iff {read : Data → Except Breakdown α} {breaks : Data → Prop}
    (hread : ∀ item, Escapes (read item) ↔ breaks item) {d : Data} :
    Escapes (contents d >>= (·.mapM read)) ↔ ItemTrap read breaks d := by
  constructor
  · rintro ⟨b, hb, hescapes⟩
    rcases bind_eq_error_iff.mp hb with hcontents | ⟨items, hcontents, hb⟩
    · obtain ⟨hpresent, hnone⟩ := fails_contents_iff.mp ⟨b, hcontents⟩
      exact .contents hpresent hnone
    · obtain ⟨before, item, after, rfl, hbefore, hitem⟩ := mapM_eq_error_iff.mp hb
      exact .item hcontents hbefore ((hread item).mp ⟨b, hitem, hescapes⟩)
  · rintro (⟨hpresent, hnone⟩ | ⟨hcontents, hbefore, hitem⟩)
    · refine ⟨.badKind, bind_eq_error_iff.mpr (.inl ?_), by simp⟩
      simp [contents, hpresent, hnone]
    · obtain ⟨b, hb, hescapes⟩ := (hread _).mpr hitem
      exact ⟨b, bind_eq_error_iff.mpr (.inr ⟨_, hcontents,
        mapM_eq_error_iff.mpr ⟨_, _, _, rfl, hbefore, hb⟩⟩), hescapes⟩

/-- What is no header: it cannot be gone through, or lacks its name or its value. -/
inductive NoHeader : Data → Prop
  | scalar {d : Data} (h : d.contents? = none) : NoHeader d
  | name {es : Entries} (h : Data.find? "name" es = none) : NoHeader (.map es)
  | value {es : Entries} {name : Data} (hname : Data.find? "name" es = some name)
      (hwords : name.isWritable = true) (h : Data.find? "value" es = none) : NoHeader (.map es)

/-- What is no input: it cannot be gone through, or its key cannot be the key of a map. -/
inductive NoInput : Data → Prop
  | scalar {d : Data} (h : d.contents? = none) : NoInput d
  | key {d key value : Data} (h : d.contents? = some [key, value]) (hkey : key.isKey = false) :
      NoInput d

theorem inWords_refuses (d : Data) : Filter.Refuses d.inWords :=
  fun _ h => ⟨none, (Data.inWords_eq_error_iff.mp h).2⟩

/-- Two values are put in words, or are refused. -/
theorem pair_refuses (first second : Data) :
    Filter.Refuses (do return (← first.inWords, ← second.inWords)) :=
  (inWords_refuses first).bind fun _ => (inWords_refuses second).bind fun _ => .ok _

theorem escapes_headerOf_iff {d : Data} : Escapes (headerOf d) ↔ NoHeader d := by
  constructor
  · intro h
    unfold headerOf at h
    split at h
    · next es =>
      split at h
      · next hname => exact .name hname
      · next name hname =>
        -- what cannot be put in words is refused, and that is caught
        rcases escapes_bind_iff.mp h with h | ⟨text, htext, h⟩
        · exact absurd h (not_escapes_of_refuses (inWords_refuses name))
        -- the name can be put in words, so it is the value that is missing
        · have hwords : name.isWritable = true := by
            by_contra hlong
            rw [Data.inWords_of_not_isWritable hlong] at htext
            cases htext
          split at h
          · next hvalue => exact .value hname hwords hvalue
          · exact absurd h
              (not_escapes_of_refuses ((inWords_refuses _).bind fun _ => .ok _))
    · split at h
      · next hnone => exact .scalar hnone
      · exact absurd h (not_escapes_of_refuses (pair_refuses _ _))
      · obtain ⟨_, ⟨⟩, hescapes⟩ := h
        exact absurd rfl (hescapes none)
  · intro h
    cases h with
    | scalar hnone =>
        unfold headerOf
        split
        · cases hnone
        · rw [hnone]
          exact ⟨.badKind, rfl, by simp⟩
    | name hname =>
        unfold headerOf
        simp only [hname]
        exact ⟨.noEntry, rfl, by simp⟩
    | value hname hwords hvalue =>
        unfold headerOf
        simp only [hname, hvalue, Data.inWords_of_isWritable hwords]
        exact ⟨.noEntry, rfl, by simp⟩

theorem escapes_entryOf_iff {d : Data} : Escapes (entryOf d) ↔ NoInput d := by
  constructor
  · intro h
    unfold entryOf at h
    split at h
    · next hnone => exact .scalar hnone
    · next key value hpair =>
      split at h
      · obtain ⟨_, ⟨⟩, _⟩ := h
      · next hkey => exact .key hpair (Bool.eq_false_iff.mpr hkey)
    · obtain ⟨_, ⟨⟩, hescapes⟩ := h
      exact absurd rfl (hescapes none)
  · intro h
    refine ⟨.badKind, ?_, by simp⟩
    unfold entryOf
    cases h with
    | scalar hnone => rw [hnone]
    | key hpair hkey => simp [hpair, hkey]

/-- Headers that are a map never are a trap. -/
theorem headersOfEntries_refuses (es : Entries) : Filter.Refuses (headersOfEntries es) := by
  intro b h
  obtain ⟨_, header, _, _, _, hheader⟩ := mapM_eq_error_iff.mp h
  exact pair_refuses header.1 header.2 b hheader

/-- Headers that are no map and cannot be gone through. -/
def HeaderTrap (d : Data) : Prop := (∀ es, d ≠ .map es) ∧ ItemTrap headerOf NoHeader d

/-- Inputs that are no map and cannot be gone through. -/
def InputTrap (d : Data) : Prop := (∀ es, d ≠ .map es) ∧ ItemTrap entryOf NoInput d

theorem escapes_normalizeHeaders_iff {settings : Settings} {d : Data} :
    Escapes (normalizeHeaders settings d) ↔ HeaderTrap d := by
  have hwritten : Escapes (normalizeHeaders settings d) ↔ Escapes (writtenHeaders d) := by
    simp only [Escapes, normalizeHeaders, map_eq_error_iff]
  rw [hwritten]
  unfold writtenHeaders HeaderTrap
  split
  · next es =>
    exact iff_of_false (not_escapes_of_refuses (headersOfEntries_refuses es)) fun h => h.1 es rfl
  · next hother =>
    rw [and_iff_right hother]
    exact escapes_mapM_iff fun _ => escapes_headerOf_iff

theorem escapes_normalizeInputs_iff {d : Data} :
    Escapes (normalizeInputs d) ↔ InputTrap d := by
  unfold normalizeInputs InputTrap
  split
  · next es => exact iff_of_false (not_escapes_of_refuses (.ok _)) fun h => h.1 es rfl
  · next hother =>
    rw [and_iff_right hother, ← escapes_mapM_iff fun _ => escapes_entryOf_iff, ← bind_assoc,
      escapes_bind_iff]
    exact or_iff_left fun ⟨_, _, h⟩ => not_escapes_of_refuses (.ok _) h

end Definition

end ReleaseSearch
