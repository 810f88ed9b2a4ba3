import ReleaseSearch.Definition.Findings
import ReleaseSearch.Proofs.Except

/-!
# The shape of a written definition

`findings` looks at the shape of what is written.  Where it finds nothing wrong, every part that a
definition needs is there and can be taken apart: `Shape raw` holds the parts and what is known of
them, and

    findings raw = .ok []   gives   Shape raw
-/

namespace ReleaseSearch

def Data.valueAt (d : Data) (key : String) : Data := (d.get? key).getD .null

namespace Definition

/-- The parts that every definition needs are present. -/
def HasParts (raw : Data) : Prop := ∀ key ∈ requiredParts, (raw.valueAt key).isPresent = true

/-- Only a map has parts. -/
theorem HasParts.isMap {raw : Data} (h : HasParts raw) : ∃ es, raw = .map es := by
  have hid := h "id" (by simp [requiredParts])
  cases raw with
  | map es => exact ⟨es, rfl⟩
  | _ => cases hid

theorem findings_of_parts {raw : Data} (h : HasParts raw) :
    findings raw = do
      let ofUnit ← unitFindings (raw.valueAt "request_delay_unit")
      let ofSearch ← searchFindings (raw.valueAt "search")
      return linkFindings (raw.valueAt "links") ++ delayFindings (raw.valueAt "request_delay")
        ++ ofUnit ++ ofSearch := by
  obtain ⟨es, rfl⟩ := h.isMap
  have hnone : requiredParts.filter (fun key => !((Data.map es).valueAt key).isPresent) = [] :=
    List.filter_eq_nil_iff.mpr fun key hkey => by simpa using h key hkey
  exact if_pos (List.isEmpty_iff.mpr hnone)

/-- Without the parts it is looked no further. -/
theorem findings_of_missing {raw : Data} (h : ¬ HasParts raw) :
    ∃ text texts, findings raw = .ok (text :: texts) := by
  cases raw with
  | map es =>
      have hsome : requiredParts.filter (fun key => !((Data.map es).valueAt key).isPresent) ≠ [] :=
        fun hnone => h fun key hkey => by simpa using List.filter_eq_nil_iff.mp hnone key hkey
      have hfindings : findings (.map es) = .ok
          ((requiredParts.filter fun key => !((Data.map es).valueAt key).isPresent).map
            fun key => "Missing required field: '" ++ key ++ "'") :=
        if_neg (mt List.isEmpty_iff.mp hsome)
      obtain ⟨key, keys, hkeys⟩ := List.exists_cons_of_ne_nil hsome
      exact ⟨_, _, hkeys ▸ hfindings⟩
  | _ => exact ⟨_, _, rfl⟩

/-! ## The parts -/

/-- A path is a text, or a map that holds one. -/
inductive PathFits : Data → Prop
  | text (template : String) : PathFits (.text template)
  | map {es : Entries} (h : ((Data.map es).valueAt "path").isPresent = true) : PathFits (.map es)

/-- A field is a text, or a map whose filters can be built. -/
inductive FieldFits : Data → Prop
  | text (selector : String) : FieldFits (.text selector)
  | map {es : Entries} {specs : List Data}
      (hfilters : orElse ((Data.map es).valueAt "filters") (.list []) = .list specs)
      (hspecs : ∀ spec ∈ specs, Filter.problems spec = .ok []) : FieldFits (.map es)

/-- A written definition with which nothing is wrong, in parts. -/
structure Shape (raw : Data) where
  isMap : ∃ es, raw = .map es
  links : List Data
  links_eq : raw.valueAt "links" = .list links
  links_ne : links ≠ []
  delay_fits : raw.valueAt "request_delay" = .null ∨
    isNonNegative (raw.valueAt "request_delay") = true
  unit_fits : raw.valueAt "request_delay_unit" = .null ∨
    ∃ name, Delay.unitName (raw.valueAt "request_delay_unit") = .ok name ∧ name ∈ delayUnits
  search : Entries
  search_eq : raw.valueAt "search" = .map search
  paths : List Data
  paths_eq : writtenPaths (.map search) >>= contents = .ok paths
  paths_ne : paths ≠ []
  paths_fit : ∀ path ∈ paths, PathFits path
  rows : Entries
  rows_eq : (Data.map search).valueAt "rows" = .map rows
  rows_present : ((Data.map rows).valueAt "selector").isPresent = true
  fields : Entries
  fields_eq : (Data.map search).valueAt "fields" = .map fields
  required : ∀ name ∈ requiredFields, hasField fields name = true
  fields_fit : ∀ field ∈ fields, FieldFits field.2

/-! ## Nothing is wrong -/

theorem links_of_findings {links : Data} (h : linkFindings links = []) :
    ∃ items, links = .list items := by
  cases links with
  | list items => exact ⟨items, rfl⟩
  | _ => cases h

theorem delay_of_findings {delay : Data} (h : delayFindings delay = []) :
    delay = .null ∨ isNonNegative delay = true := by
  unfold delayFindings at h
  split at h
  · exact .inl rfl
  · split at h
    · next hfits => exact .inr hfits
    · cases h

theorem unit_of_findings {unit : Data} (h : unitFindings unit = .ok []) :
    unit = .null ∨ ∃ name, Delay.unitName unit = .ok name ∧ name ∈ delayUnits := by
  unfold unitFindings at h
  split at h
  · exact .inl rfl
  · obtain ⟨name, hname, h⟩ := bind_eq_ok_iff.mp h
    split at h
    · next hfits => exact .inr ⟨name, hname, List.contains_iff_mem.mp hfits⟩
    · cases h

theorem pathFits_of_finding? {index : Nat} {path : Data} (h : pathFinding? index path = .ok none) :
    PathFits path := by
  cases path with
  | text template => exact .text template
  | map es =>
      by_cases hpath : ((Data.map es).valueAt "path").isPresent = true
      · exact .map hpath
      · have hpath : ((Data.find? "path" es).getD .null).isPresent = false :=
          Bool.eq_false_iff.mpr hpath
        simp [pathFinding?, hpath] at h
  | _ => cases h

/-- The paths are looked at one after the other, once they can be gone through. -/
theorem pathFindings_eq (search : Data) :
    pathFindings search = (writtenPaths search >>= contents) >>= fun paths =>
      if paths.isEmpty then .ok ["Missing required search field: 'paths'"]
      else (paths.zipIdx.mapM fun item => pathFinding? item.2 item.1) >>= fun found =>
        .ok (found.filterMap fun finding => finding) := by
  unfold pathFindings
  rw [bind_assoc]
  rfl

theorem paths_of_findings {search : Data} (h : pathFindings search = .ok []) :
    ∃ paths, writtenPaths search >>= contents = .ok paths ∧ paths ≠ [] ∧
      ∀ path ∈ paths, PathFits path := by
  rw [pathFindings_eq] at h
  obtain ⟨paths, hpaths, h⟩ := bind_eq_ok_iff.mp h
  split at h
  · cases h
  · next hne =>
    obtain ⟨found, hfound, h⟩ := bind_eq_ok_iff.mp h
    refine ⟨paths, hpaths, by simpa using hne, ?_⟩
    intro path hpath
    obtain ⟨index, hindex⟩ := List.mem_iff_getElem?.mp hpath
    have hindexed : (path, index) ∈ paths.zipIdx := List.mem_zipIdx_iff_getElem?.mpr hindex
    obtain ⟨finding, hmem, hfinding⟩ := exists_of_mapM_ok hfound hindexed
    cases finding with
    | none => exact pathFits_of_finding? hfinding
    | some text =>
        have hnone : found.filterMap (fun finding => finding) = [] := Except.ok.inj h
        cases List.filterMap_eq_nil_iff.mp hnone _ hmem

theorem rows_of_findings {search : Data} (h : rowFindings search = []) :
    ∃ rows, search.valueAt "rows" = .map rows ∧
      ((Data.map rows).valueAt "selector").isPresent = true := by
  unfold rowFindings at h
  split at h
  · next es hrows =>
    refine ⟨es, hrows, ?_⟩
    by_contra hpresent
    have hpresent : ((Data.find? "selector" es).getD .null).isPresent = false :=
      Bool.eq_false_iff.mpr hpresent
    simp [hpresent] at h
  · cases h

theorem fieldFits_of_findings {name field : Data} (h : fieldFindings name field = .ok []) :
    FieldFits field := by
  unfold fieldFindings at h
  split at h
  · exact .text _
  · split at h
    · next specs hspecs =>
      obtain ⟨problems, hproblems, h⟩ := bind_eq_ok_iff.mp h
      refine .map hspecs fun spec hspec => ?_
      obtain ⟨ofSpec, hmem, hspec⟩ := exists_of_mapM_ok hproblems hspec
      have hnone : problems.flatten = [] := List.length_eq_zero_iff.mp (length_of_mapM_ok h)
      rw [hspec, List.flatten_eq_nil_iff.mp hnone ofSpec hmem]
    · obtain ⟨_, _, h⟩ := bind_eq_ok_iff.mp h
      cases h
  · obtain ⟨_, _, h⟩ := bind_eq_ok_iff.mp h
    cases h

theorem fields_of_findings {search : Data} (h : allFieldFindings search = .ok []) :
    ∃ fields, search.valueAt "fields" = .map fields ∧
      (∀ name ∈ requiredFields, hasField fields name = true) ∧
      ∀ field ∈ fields, FieldFits field.2 := by
  unfold allFieldFindings at h
  split at h
  · next fields hfields =>
    obtain ⟨found, hfound, h⟩ := bind_eq_ok_iff.mp h
    obtain ⟨hmissing, hflat⟩ := List.append_eq_nil_iff.mp (Except.ok.inj h)
    refine ⟨fields, hfields, ?_, ?_⟩
    · intro name hname
      simpa using List.filter_eq_nil_iff.mp (List.map_eq_nil_iff.mp hmissing) name hname
    · intro field hfield
      obtain ⟨ofField, hmem, hfield⟩ := exists_of_mapM_ok hfound hfield
      rw [List.flatten_eq_nil_iff.mp hflat ofField hmem] at hfield
      exact fieldFits_of_findings hfield
  · cases h

theorem search_of_findings {search : Data} (h : searchFindings search = .ok []) :
    ∃ es, search = .map es ∧ pathFindings search = .ok [] ∧ rowFindings search = [] ∧
      allFieldFindings search = .ok [] := by
  unfold searchFindings at h
  split at h
  · next es =>
    obtain ⟨ofPaths, hpaths, h⟩ := bind_eq_ok_iff.mp h
    obtain ⟨ofFields, hfields, h⟩ := bind_eq_ok_iff.mp h
    obtain ⟨hleft, rfl⟩ := List.append_eq_nil_iff.mp (Except.ok.inj h)
    obtain ⟨rfl, hrows⟩ := List.append_eq_nil_iff.mp hleft
    exact ⟨es, rfl, hpaths, hrows, hfields⟩
  · cases h

/-- **Where nothing is wrong, every part is there.** -/
theorem shape_of_findings {raw : Data} (h : findings raw = .ok []) : Nonempty (Shape raw) := by
  -- A missing part alone is a finding, so all of them are there.
  have hparts : HasParts raw := by
    by_contra hmissing
    obtain ⟨text, texts, hfindings⟩ := findings_of_missing hmissing
    rw [h] at hfindings
    cases hfindings
  rw [findings_of_parts hparts] at h
  obtain ⟨ofUnit, hunit, h⟩ := bind_eq_ok_iff.mp h
  obtain ⟨ofSearch, hsearch, h⟩ := bind_eq_ok_iff.mp h
  -- The findings of the parts stand one after the other: none of the parts has one.
  obtain ⟨hothers, rfl⟩ := List.append_eq_nil_iff.mp (Except.ok.inj h)
  obtain ⟨hfront, rfl⟩ := List.append_eq_nil_iff.mp hothers
  obtain ⟨hlinks, hdelay⟩ := List.append_eq_nil_iff.mp hfront
  obtain ⟨links, hlinks⟩ := links_of_findings hlinks
  obtain ⟨search, hmap, hpaths, hrows, hfields⟩ := search_of_findings hsearch
  rw [hmap] at hpaths hrows hfields
  obtain ⟨paths, hpaths, hpaths_ne, hpaths_fit⟩ := paths_of_findings hpaths
  obtain ⟨rows, hrows, hselector⟩ := rows_of_findings hrows
  obtain ⟨fields, hfields, hrequired, hfields_fit⟩ := fields_of_findings hfields
  have hlinks_present := hparts "links" (by simp [requiredParts])
  rw [hlinks] at hlinks_present
  exact ⟨{
    isMap := hparts.isMap
    links := links, links_eq := hlinks
    links_ne := by rintro rfl; cases hlinks_present
    delay_fits := delay_of_findings hdelay
    unit_fits := unit_of_findings hunit
    search := search, search_eq := hmap
    paths := paths, paths_eq := hpaths, paths_ne := hpaths_ne, paths_fit := hpaths_fit
    rows := rows, rows_eq := hrows, rows_present := hselector
    fields := fields, fields_eq := hfields, required := hrequired
    fields_fit := hfields_fit }⟩

end Definition

end ReleaseSearch
