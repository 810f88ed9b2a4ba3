import ReleaseSearch.Proofs.Definition.Longhand

/-!
# The two forms of a definition

A shorthand that is not plain may still be harmless: where it makes a difference, neither form is
loaded.  Three kinds are not harmless (`harmful_shorthands`): an empty path in a list, an empty
selector, and the name of a filter that fails late in a field that is ignored.  Their short forms
are loaded; of the long ones the second loses its field, and the others are refused.
-/

namespace ReleaseSearch.Definition

variable {raw raw' : Data}

/-- A shorthand that makes no difference to a definition that is loaded in one of its forms. -/
def Shorthand.IsHarmless : Shorthand → Prop
  | .path template => template ≠ ""
  | .singlePath _ _ => True
  | .selector text lacks => ¬ lacks → text ≠ ""
  | .filter name ignored => ignored → ¬ Filter.FailsLate (.text name)

/-! ## What is harmless is plain in what is loaded -/

theorem SpellsField.isPlain {lacks : Prop} {field field' : Data}
    (h : SpellsField Shorthand.IsHarmless lacks field field')
    (hloads : ¬ HasLateFilter field ∨ FieldFits field') :
    SpellsField Shorthand.IsPlain lacks field field' := by
  cases h with
  | same => exact .same _
  | selector h => exact .selector h
  | @filters es es' h =>
      refine .filters (h.imp fun key hvalue => ?_)
      generalize hv : (Data.map es).valueAt key = v at hvalue
      generalize hv' : (Data.map es').valueAt key = v' at hvalue
      cases hvalue with
      | same => exact .same _
      | @filters specs specs' hkey hall =>
          subst hkey
          refine .filters rfl (forall₂_imp_of_mem hall fun spec hspec spec' hspec' hsame => ?_)
          cases hsame with
          | same => exact .same _
          | arguments h => exact .arguments h
          | @name name hname =>
              -- In a field that is kept, a name that fails late is harmless: neither form is loaded
              -- with it, so there is none in what is loaded.
              refine .name fun hlate => ?_
              have hkept : ((Data.map es).valueAt "selector").isPresent = true :=
                not_not.mp fun hignored => hname hignored hlate
              rcases hloads with hbuilt | hfits
              · exact hbuilt ⟨es, specs, _, rfl, hkept, by rw [hv, orElse_list], hspec, hlate⟩
              · cases hfits with
                | map hfilters hproblems =>
                    rw [hv', orElse_list] at hfilters
                    cases hfilters
                    exact Filter.problems_named_eq_nil_iff.mp (hproblems _ hspec') hlate

theorem SpellsPart.isPlain {counts : Prop} {key : String} {v v' : Data}
    (h : SpellsPart Shorthand.IsHarmless counts key v v')
    (hsingle : key = "path" → counts → v.isPresent = true ∨ PathFits v')
    (hfields : ∀ fields fields', key = "fields" → v = .map fields → v' = .map fields' →
      ∀ entry ∈ fields, ∀ entry' ∈ fields', ¬ HasLateFilter entry.2 ∨ FieldFits entry'.2) :
    SpellsPart Shorthand.IsPlain counts key v v' := by
  cases h with
  | same => exact .same _
  | paths hkey h => exact .paths hkey h
  | path hkey h =>
      refine .path hkey ?_
      cases h with
      | same => exact .same _
      | @template template =>
          refine .template fun hcounts => ?_
          rcases hsingle hkey hcounts with hpresent | hfits
          · exact bne_iff_ne.mp hpresent
          · cases hfits with
            | map hpresent => exact bne_iff_ne.mp hpresent
  | fields hkey h =>
      refine .fields hkey (forall₂_imp_of_mem h fun entry hentry entry' hentry' hsame => ?_)
      exact ⟨hsame.1, hsame.2.isPlain (hfields _ _ hkey rfl rfl entry hentry entry' hentry')⟩

/-- Where the single path counts, it is the only one. -/
theorem Shape.singlePath (s : Shape raw) (hcounts : SinglePathCounts s.search) :
    ((Data.map s.search).valueAt "path").isPresent = true ∧
      s.paths = [(Data.map s.search).valueAt "path"] := by
  have hpaths := s.paths_eq
  rw [writtenPaths_of_null hcounts] at hpaths
  have hpaths := Except.ok.inj hpaths
  split at hpaths
  · next hpresent => exact ⟨hpresent, hpaths.symm⟩
  · exact absurd hpaths.symm s.paths_ne

/-- There are no paths in the long form if there are none in the short one. -/
theorem SpellsEntries.singlePathCounts {may : Shorthand → Prop} {counts : Prop}
    {search search' : Entries} (h : SpellsEntries (SpellsPart may counts) search search')
    (hcounts : SinglePathCounts search) : SinglePathCounts search' := by
  have hpaths := h.values "paths"
  rw [show _ = Data.null from hcounts] at hpaths
  unfold SinglePathCounts
  generalize (Data.map search').valueAt "paths" = v at hpaths
  cases hpaths with
  | same => rfl
  | path hkey => exact absurd hkey (by decide)

/-- **Harmless shorthands are plain in a definition that is loaded**, and in one with whose long
form nothing is wrong. -/
theorem SpellsOut.isPlain (h : SpellsOut Shorthand.IsHarmless raw raw') (settings : Settings)
    (hloads : (∃ d, (load settings raw).outcome = .ok d) ∨ findings raw' = .ok []) :
    SpellsOut Shorthand.IsPlain raw raw' := by
  cases h with
  | same => exact .same _
  | @parts es es' h =>
      refine .parts (h.imp fun key hvalue => ?_)
      generalize hv : (Data.map es).valueAt key = v at hvalue
      generalize hv' : (Data.map es').valueAt key = v' at hvalue
      cases hvalue with
      | same => exact .same _
      | @search search search' hkey h =>
          subst hkey
          refine .search rfl (h.imp fun key hvalue => hvalue.isPlain ?_ ?_)
          · rintro rfl hcounts
            rcases hloads with ⟨d, hload⟩ | hclean
            · obtain ⟨s⟩ := shape_of_findings (load_eq_ok_iff.mp hload).1
              obtain rfl := Data.map.inj (s.search_eq.symm.trans hv)
              exact .inl (s.singlePath hcounts).1
            · obtain ⟨s'⟩ := shape_of_findings hclean
              obtain rfl := Data.map.inj (s'.search_eq.symm.trans hv')
              -- The long form has the single path only, and its paths fit.
              have hpaths := (s'.singlePath (h.singlePathCounts hcounts)).2
              exact .inr (s'.paths_fit _ (hpaths ▸ List.mem_singleton_self _))
          · rintro fields fields' rfl hfields hfields' entry hentry entry' hentry'
            rcases hloads with ⟨d, hload⟩ | hclean
            · exact .inl (not_hasLateFilter_of_load hload (by rw [hv, hfields]) hentry)
            · obtain ⟨s'⟩ := shape_of_findings hclean
              obtain rfl := Data.map.inj (s'.search_eq.symm.trans hv')
              obtain rfl := Data.map.inj (s'.fields_eq.symm.trans hfields')
              exact .inr (s'.fields_fit entry' hentry')

/-! ## How both forms end -/

/-- Two ends in the same definition, or in failures that say what is wrong. -/
inductive SameEnd : Except Trouble Definition → Except Trouble Definition → Prop
  | definition (d : Definition) : SameEnd (.ok d) (.ok d)
  | failure {f f' : Failure} {complaint complaint' : Complaint}
      (h : f.kind = .definition complaint) (h' : f'.kind = .definition complaint') :
      SameEnd (.error (.failure f)) (.error (.failure f'))

theorem SpellsOut.load_eq_ok_iff (h : SpellsOut Shorthand.IsHarmless raw raw') (settings : Settings)
    (d : Definition) :
    (load settings raw).outcome = .ok d ↔ (load settings raw').outcome = .ok d := by
  constructor
  · intro hload
    rw [← (h.isPlain settings (.inl ⟨d, hload⟩)).outcome_load_eq]
    exact hload
  · intro hload
    have hclean := (Definition.load_eq_ok_iff.mp hload).1
    rw [(h.isPlain settings (.inr hclean)).outcome_load_eq]
    exact hload

/-- **What is spelled out is loaded as before.**

* Plain shorthands make no difference, however the loading ends.
* With harmless ones, both forms are loaded to the same definition or none is; and unless there is a
  trap in one of them, both are refused where none is loaded. -/
theorem load_of_spellsOut (settings : Settings) (raw raw' : Data) :
    (SpellsOut Shorthand.IsPlain raw raw' →
      (load settings raw).outcome = (load settings raw').outcome) ∧
    (SpellsOut Shorthand.IsHarmless raw raw' →
      (∀ d, (load settings raw).outcome = .ok d ↔ (load settings raw').outcome = .ok d) ∧
      (¬ Trap raw → ¬ Trap raw' →
        SameEnd (load settings raw).outcome (load settings raw').outcome)) := by
  refine ⟨fun h => h.outcome_load_eq settings, fun h => ?_⟩
  have hsame := h.load_eq_ok_iff settings
  refine ⟨hsame, fun hfree hfree' => ?_⟩
  -- Away from the traps both end well, so one fails where the other does.
  have hends : EndsWell (load settings raw).outcome := endsWell_of_not_trap hfree
  have hends' : EndsWell (load settings raw').outcome := endsWell_of_not_trap hfree'
  generalize (load settings raw).outcome = left at hsame hends
  generalize (load settings raw').outcome = right at hsame hends'
  cases hends with
  | definition d =>
      rw [(hsame d).mp rfl]
      exact .definition d
  | failure hkind =>
      cases hends' with
      | definition d => cases (hsame d).mpr rfl
      | failure hkind' => exact .failure hkind hkind'

/-! ## A sample -/

/-- A written definition with a path and a field for the size. -/
def formed (path size : Data) : Data :=
  .object [("id", .text "n"), ("links", .list [.text "https://example.org/"]),
    ("search", .object [("paths", .list [path]), ("rows", .object [("selector", .text "tr")]),
      ("fields", .object [("title", .text "a"), ("download", .text "b"), ("size", size)])])]

def filteredSize (selector filter : Data) : Data :=
  .object [("selector", selector), ("filters", .list [filter])]

theorem formed_spellsOut {may : Shorthand → Prop} {path path' size size' : Data}
    (hpath : SpellsPath (fun template => may (.path template)) path path')
    (hsize : ∀ lacks, SpellsField may lacks size size') :
    SpellsOut may (formed path size) (formed path' size') := by
  refine .parts (.of_forall₂ (fun _ => .same _) ?_)
  refine .cons ⟨rfl, fun _ _ => .same _⟩ (.cons ⟨rfl, fun _ _ => .same _⟩ (.cons ⟨rfl, ?_⟩ .nil))
  rintro _ ⟨⟩
  refine .search rfl (.of_forall₂ (fun _ => .same _) (.cons ⟨rfl, ?_⟩
    (.cons ⟨rfl, fun _ _ => .same _⟩ (.cons ⟨rfl, ?_⟩ .nil))))
  · rintro _ ⟨⟩
    exact .paths rfl (.cons hpath .nil)
  · rintro _ ⟨⟩
    exact .fields rfl (.cons ⟨rfl, .same _⟩ (.cons ⟨rfl, .same _⟩ (.cons ⟨rfl, hsize _⟩ .nil)))

theorem filteredSize_spellsField {may : Shorthand → Prop} {selector : Data} {name : String}
    (h : ∀ ignored, may (.filter name ignored)) (lacks : Prop) :
    SpellsField may lacks (filteredSize selector (.text name))
      (filteredSize selector (.object [("name", .text name)])) := by
  refine .filters (.of_forall₂ (fun _ => .same _)
    (.cons ⟨rfl, fun _ _ => .same _⟩ (.cons ⟨rfl, ?_⟩ .nil)))
  rintro _ ⟨⟩
  exact .filters rfl (.cons (.name (h _)) .nil)

/-- A path and the name of a filter are spelled out, and the definition is the same. -/
theorem load_of_spellsOut_trim :
    (load {} (formed (.text "/s") (filteredSize (.text "c") (.text "trim")))).outcome =
      (load {} (formed (.object [("path", .text "/s")])
        (filteredSize (.text "c") (.object [("name", .text "trim")])))).outcome ∧
    SameEnd (load {} (formed (.text "/s") (filteredSize (.text "c") (.text "trim")))).outcome
      (load {} (formed (.object [("path", .text "/s")])
        (filteredSize (.text "c") (.object [("name", .text "trim")])))).outcome := by
  have htrim : ¬ Filter.FailsLate (.text "trim") := by
    rw [Filter.failsLate_text_iff]
    simp [Filter.needed?]
  obtain ⟨hplain, hharmless⟩ := load_of_spellsOut {}
    (formed (.text "/s") (filteredSize (.text "c") (.text "trim")))
    (formed (.object [("path", .text "/s")])
      (filteredSize (.text "c") (.object [("name", .text "trim")])))
  refine ⟨hplain (formed_spellsOut (.template (by decide : "/s" ≠ ""))
    (filteredSize_spellsField fun _ => htrim)), ?_⟩
  refine (hharmless (formed_spellsOut (.template (by decide : "/s" ≠ ""))
    (filteredSize_spellsField fun _ _ => htrim))).2 ?_ ?_
  · exact not_trap_of_isOk {} (by decide +kernel)
  · exact not_trap_of_isOk {} (by decide +kernel)

/-- **Three shorthands are not harmless**: an empty path, an empty selector, and the name of a
filter that cannot be built in a field that is ignored.  The short form is loaded, and the long one
is not, or without the field. -/
theorem harmful_shorthands :
    (SpellsOut (fun _ => True) (formed (.text "") (.text "c"))
        (formed (.object [("path", .text "")]) (.text "c")) ∧
      (load {} (formed (.text "") (.text "c"))).outcome.isOk = true ∧
      (load {} (formed (.object [("path", .text "")]) (.text "c"))).outcome.isOk = false) ∧
    (SpellsOut (fun _ => True) (formed (.text "/s") (.text ""))
        (formed (.text "/s") (.object [("selector", .text "")])) ∧
      (load {} (formed (.text "/s") (.text ""))).outcome.toOption.map (·.fieldSelectors.length) =
        some 3 ∧
      (load {} (formed (.text "/s") (.object [("selector", .text "")]))).outcome.toOption.map
        (·.fieldSelectors.length) = some 2) ∧
    (SpellsOut (fun _ => True) (formed (.text "/s") (filteredSize (.text "") (.text "replace")))
        (formed (.text "/s") (filteredSize (.text "") (.object [("name", .text "replace")]))) ∧
      (load {} (formed (.text "/s") (filteredSize (.text "") (.text "replace")))).outcome.isOk =
        true ∧
      (load {} (formed (.text "/s") (filteredSize (.text "")
        (.object [("name", .text "replace")])))).outcome.isOk = false) := by
  refine ⟨⟨formed_spellsOut (.template trivial) fun _ => .same _, ?_, ?_⟩,
    ⟨formed_spellsOut (.same _) fun _ => .selector trivial, ?_, ?_⟩,
    ⟨formed_spellsOut (.same _) (filteredSize_spellsField fun _ => trivial), ?_, ?_⟩⟩
  all_goals decide +kernel

end ReleaseSearch.Definition
