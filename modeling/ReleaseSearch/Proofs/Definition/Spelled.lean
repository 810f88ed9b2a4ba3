import ReleaseSearch.Proofs.Definition.Ends
import ReleaseSearch.Proofs.Definition.Shorthand

/-!
# Definitions that are spelled out

A shorthand and what spells it out take different ways through `findings` and through the reading
of the record.  For a *plain* shorthand both come to the same end, whatever else is written.
-/

namespace ReleaseSearch.Definition

open Schema

/-- A shorthand that may be spelled out without any difference, where it counts. -/
def Shorthand.IsPlain : Shorthand → Prop
  | .path template => template ≠ ""
  | .singlePath template counts => counts → template ≠ ""
  | .selector text lacks => ¬ lacks → text ≠ ""
  | .filter name _ => ¬ Filter.FailsLate (.text name)

variable {may : Shorthand → Prop}

/-! ## Filters -/

theorem SpellsArguments.eq_of_ne {key : String} {v v' : Data} (h : SpellsArguments key v v')
    (hkey : key ≠ "args") : v = v' := by
  cases h with
  | same => rfl
  | single hargs => exact absurd hargs hkey

theorem SpellsArguments.arguments_eq {key : String} {v v' : Data} (h : SpellsArguments key v v') :
    Filter.arguments v = Filter.arguments v' := by
  cases h with
  | same => rfl
  | single _ hnull hlist => exact (Filter.arguments_single hnull hlist).symm

/-- A filter that is spelled out is built as before. -/
theorem SpellsFilter.build_eq {may : String → Prop} {spec spec' : Data}
    (h : SpellsFilter may spec spec') : Filter.build spec = Filter.build spec' := by
  cases h with
  | same => rfl
  | name => exact Filter.build_text _
  | arguments h =>
      exact Filter.build_map_congr (h.find?_eq fun _ _ hname => hname.eq_of_ne (by decide))
        (h.values "args").arguments_eq

/-- It has the problems that it had, unless it fails late. -/
theorem SpellsFilter.problems_eq {spec spec' : Data}
    (h : SpellsFilter (fun name => ¬ Filter.FailsLate (.text name)) spec spec') :
    Filter.problems spec = Filter.problems spec' := by
  cases h with
  | same => rfl
  | name h => exact (Filter.problems_named_eq_nil_iff.mpr h).symm
  | arguments h =>
      exact Filter.problems_map_congr (h.find?_eq fun _ _ hname => hname.eq_of_ne (by decide))
        (h.values "args").arguments_eq

theorem SpellsFilters.eq_of_ne {may : String → Prop} {key : String} {v v' : Data}
    (h : SpellsFilters may key v v') (hkey : key ≠ "filters") : v = v' := by
  cases h with
  | same => rfl
  | filters hfilters => exact absurd hfilters hkey

/-- A list stands for itself. -/
theorem orElse_list (items : List Data) : orElse (.list items) (.list []) = .list items := by
  cases items <;> rfl

theorem SpellsFilters.orElse {may : String → Prop} {key : String} {v v' : Data}
    (h : SpellsFilters may key v v') :
    SpellsFilters may key (Definition.orElse v (.list [])) (Definition.orElse v' (.list [])) := by
  cases h with
  | same => exact .same _
  | filters hkey h =>
      rw [orElse_list, orElse_list]
      exact .filters hkey h

/-! ## What is wrong with fields -/

theorem fieldFindings_map_congr {name : Data} {es es' : Entries}
    (h : orElse ((Data.map es).valueAt "filters") (.list []) =
      orElse ((Data.map es').valueAt "filters") (.list [])) :
    fieldFindings name (.map es) = fieldFindings name (.map es') := by
  have h : orElse ((Data.find? "filters" es).getD .null) (.list []) =
    orElse ((Data.find? "filters" es').getD .null) (.list []) := h
  simp only [fieldFindings, h]

theorem fieldFindings_map_of_list {name : Data} {es : Entries} {specs : List Data}
    (h : orElse ((Data.map es).valueAt "filters") (.list []) = .list specs) :
    fieldFindings name (.map es) =
      specs.mapM Filter.problems >>= fun problems => problems.flatten.mapM fun problem =>
        name.inWords >>= fun text => .ok ("Field '" ++ text ++ "': " ++ problem) := by
  have h : orElse ((Data.find? "filters" es).getD .null) (.list []) = .list specs := h
  simp only [fieldFindings, h]
  rfl

namespace SpellsField

variable {lacks : Prop} {field field' : Data}

/-- With a field that is spelled out the same is wrong as before. -/
theorem fieldFindings_eq (h : SpellsField Shorthand.IsPlain lacks field field') (name : Data) :
    fieldFindings name field = fieldFindings name field' := by
  cases h with
  | same => rfl
  | selector => rfl
  | filters h =>
      have hfilters := (h.values "filters").orElse
      generalize hv : Definition.orElse _ _ = v at hfilters
      generalize hv' : Definition.orElse _ _ = v' at hfilters
      cases hfilters with
      | same => exact fieldFindings_map_congr (hv.trans hv'.symm)
      | filters _ hspecs =>
          rw [fieldFindings_map_of_list hv, fieldFindings_map_of_list hv',
            mapM_eq_of_forall₂ (hspecs.imp fun _ _ hspec => hspec.problems_eq)]

end SpellsField

/-- Fields that are spelled out lack what they lacked. -/
theorem SpellsPlaces.hasField_eq {lacks : Prop} {fields fields' : Entries}
    (h : SpellsPlaces (SpellsField may lacks) fields fields') (name : String) :
    hasField fields name = hasField fields' name := by
  unfold hasField
  rcases h.find?_cases name with ⟨hfind, hfind'⟩ | ⟨field, field', hfind, hfind', hfield⟩
  · rw [hfind, hfind']
  · rw [hfind, hfind']
    cases hfield with
    | same => rfl
    | selector => rfl
    | filters h => exact congrArg Data.isPresent ((h.values "selector").eq_of_ne (by decide))

/-! ## What is wrong with paths -/

theorem SpellsPath.pathFinding?_eq {path path' : Data} (h : SpellsPath (· ≠ "") path path')
    (index : Nat) : pathFinding? index path = pathFinding? index path' := by
  cases h with
  | same => rfl
  | @template template h =>
      simp [pathFinding?, Data.object, Data.find?, Data.isPresent, h]

section Search

variable {counts : Prop} {search search' : Entries}

theorem SpellsPart.eq_of_ne {key : String} {v v' : Data} (h : SpellsPart may counts key v v')
    (hpaths : key ≠ "paths") (hpath : key ≠ "path") (hfields : key ≠ "fields") : v = v' := by
  cases h with
  | same => rfl
  | paths hkey => exact absurd hkey hpaths
  | path hkey => exact absurd hkey hpath
  | fields hkey => exact absurd hkey hfields

/-- The single path, where it counts, and its long form are both absent or both a path. -/
theorem SpellsPart.singlePath_cases (hcounts : counts) {v v' : Data}
    (h : SpellsPart Shorthand.IsPlain counts "path" v v') :
    List.Forall₂ (SpellsPath (· ≠ "")) (if v.isPresent then [v] else [])
      (if v'.isPresent then [v'] else []) := by
  have hsame : v = v' → List.Forall₂ (SpellsPath (· ≠ "")) (if v.isPresent then [v] else [])
      (if v'.isPresent then [v'] else []) := by
    rintro rfl
    exact List.forall₂_same.mpr fun path _ => .same path
  cases h with
  | same => exact hsame rfl
  | paths hkey => exact absurd hkey (by decide)
  | fields hkey => exact absurd hkey (by decide)
  | path _ h =>
      cases h with
      | same => exact hsame rfl
      | @template template h =>
          have hfilled : template ≠ "" := h hcounts
          rw [if_pos (show (Data.text template).isPresent = true from bne_iff_ne.mpr hfilled)]
          exact .cons (.template hfilled) .nil

/-- The paths that are written can be gone through in both forms, and are those of the one form
spelled out; or they can in none. -/
theorem SpellsEntries.writtenPaths_cases
    (h : SpellsEntries (SpellsPart Shorthand.IsPlain (SinglePathCounts search)) search search') :
    (∃ b, writtenPaths (.map search) >>= contents = .error b ∧
      writtenPaths (.map search') >>= contents = .error b) ∨
    ∃ paths paths', writtenPaths (.map search) >>= contents = .ok paths ∧
      writtenPaths (.map search') >>= contents = .ok paths' ∧
      List.Forall₂ (SpellsPath (· ≠ "")) paths paths' := by
  have hwritten := h.values "paths"
  generalize hv : (Data.map search).valueAt "paths" = v at hwritten
  generalize hv' : (Data.map search').valueAt "paths" = v' at hwritten
  cases hwritten with
  | same =>
      -- Without paths of their own both take their single path.
      by_cases hnull : v = .null
      · rw [writtenPaths_of_null (hv.trans hnull), writtenPaths_of_null (hv'.trans hnull)]
        exact .inr ⟨_, _, rfl, rfl, (h.values "path").singlePath_cases (hv.trans hnull)⟩
      · rw [writtenPaths_of_ne_null (hv ▸ hnull), writtenPaths_of_ne_null (hv' ▸ hnull), hv, hv']
        cases contents v with
        | error b => exact .inl ⟨b, rfl, rfl⟩
        | ok paths =>
            exact .inr ⟨paths, paths, rfl, rfl, List.forall₂_same.mpr fun path _ => .same path⟩
  | @paths paths paths' _ hpaths =>
      rw [writtenPaths_of_ne_null (by simp [hv]), writtenPaths_of_ne_null (by simp [hv']), hv, hv',
        contents_list, contents_list]
      exact .inr ⟨paths, paths', rfl, rfl, hpaths⟩
  -- the other shorthands stand under other keys
  | path hkey => exact absurd hkey (by decide)
  | fields hkey => exact absurd hkey (by decide)

theorem SpellsEntries.pathFindings_eq
    (h : SpellsEntries (SpellsPart Shorthand.IsPlain (SinglePathCounts search)) search search') :
    pathFindings (.map search) = pathFindings (.map search') := by
  rw [Definition.pathFindings_eq, Definition.pathFindings_eq]
  rcases h.writtenPaths_cases with ⟨b, hpaths, hpaths'⟩ | ⟨paths, paths', hpaths, hpaths', hall⟩
  · rw [hpaths, hpaths']
  · rw [hpaths, hpaths', Run.ok_bind, Run.ok_bind]
    have hfound : (paths.zipIdx.mapM fun item => pathFinding? item.2 item.1) =
        paths'.zipIdx.mapM fun item => pathFinding? item.2 item.1 := by
      refine mapM_eq_of_forall₂ ((forall₂_zipIdx hall 0).imp ?_)
      rintro ⟨path, index⟩ ⟨path', index'⟩ ⟨hpath, rfl⟩
      exact hpath.pathFinding?_eq index
    have hempty : paths.isEmpty = paths'.isEmpty := by
      cases hall <;> rfl
    rw [hfound, hempty]

/-! ## What is wrong with the search part -/

theorem SpellsEntries.allFieldFindings_eq
    (h : SpellsEntries (SpellsPart Shorthand.IsPlain counts) search search') :
    allFieldFindings (.map search) = allFieldFindings (.map search') := by
  have hfields := h.values "fields"
  unfold Data.valueAt at hfields
  unfold allFieldFindings
  generalize ((Data.map search).get? "fields").getD .null = v at hfields
  generalize ((Data.map search').get? "fields").getD .null = v' at hfields
  cases hfields with
  | same => rfl
  | paths hkey => exact absurd hkey (by decide)
  | path hkey => exact absurd hkey (by decide)
  | @fields fields fields' _ hall =>
      have hfound : (fields.mapM fun field => fieldFindings field.1 field.2) =
          fields'.mapM fun field => fieldFindings field.1 field.2 := by
        refine mapM_eq_of_forall₂ (hall.imp ?_)
        rintro ⟨name, field⟩ ⟨_, field'⟩ ⟨rfl, hfield⟩
        exact hfield.fieldFindings_eq name
      simp only [hall.hasField_eq, hfound]

theorem SpellsEntries.searchFindings_eq
    (h : SpellsEntries (SpellsPart Shorthand.IsPlain (SinglePathCounts search)) search search') :
    searchFindings (.map search) = searchFindings (.map search') := by
  have hrows : (Data.map search).get? "rows" = (Data.map search').get? "rows" :=
    h.find?_eq fun _ _ hvalue => hvalue.eq_of_ne (by decide) (by decide) (by decide)
  unfold searchFindings rowFindings
  simp only [h.pathFindings_eq, h.allFieldFindings_eq, hrows]

end Search

/-! ## What is wrong with a definition -/

section Whole

variable {es es' : Entries}

theorem SpellsSearch.eq_of_ne {key : String} {v v' : Data} (h : SpellsSearch may key v v')
    (hkey : key ≠ "search") : v = v' := by
  cases h with
  | same => rfl
  | search hsearch => exact absurd hsearch hkey

theorem SpellsSearch.isPresent_eq {key : String} {v v' : Data} (h : SpellsSearch may key v v') :
    v.isPresent = v'.isPresent := by
  cases h with
  | same => rfl
  | search _ h => exact h.isPresent_eq

theorem SpellsSearch.searchFindings_eq {key : String} {v v' : Data}
    (h : SpellsSearch Shorthand.IsPlain key v v') : searchFindings v = searchFindings v' := by
  cases h with
  | same => rfl
  | search _ h => exact h.searchFindings_eq

/-- What is found outside of the search part stays as it is. -/
theorem SpellsEntries.get?_eq (h : SpellsEntries (SpellsSearch may) es es') {key : String}
    (hkey : key ≠ "search") : (Data.map es).get? key = (Data.map es').get? key :=
  h.find?_eq fun _ _ hvalue => hvalue.eq_of_ne hkey

theorem SpellsOut.id_eq {raw raw' : Data} (h : SpellsOut may raw raw') :
    raw.get? "id" = raw'.get? "id" := by
  cases h with
  | same => rfl
  | parts h => exact h.get?_eq (by decide)

/-- **With plain shorthands the same is wrong in both forms.** -/
theorem SpellsOut.findings_eq {raw raw' : Data} (h : SpellsOut Shorthand.IsPlain raw raw') :
    findings raw = findings raw' := by
  cases h with
  | same => rfl
  | @parts es es' h =>
      have hpresent : (fun key => !(((Data.map es).get? key).getD .null).isPresent) =
          fun key => !(((Data.map es').get? key).getD .null).isPresent :=
        funext fun key => congrArg not (h.values key).isPresent_eq
      have hsearch : searchFindings (((Data.map es).get? "search").getD .null) =
          searchFindings (((Data.map es').get? "search").getD .null) :=
        (h.values "search").searchFindings_eq
      have hunit := h.get?_eq (show "request_delay_unit" ≠ "search" by decide)
      have hdelay := h.get?_eq (show "request_delay" ≠ "search" by decide)
      have hlinks := h.get?_eq (show "links" ≠ "search" by decide)
      unfold findings
      simp only [hpresent, hsearch, hunit, hdelay, hlinks]

end Whole

end ReleaseSearch.Definition
