import ReleaseSearch.Proofs.Definition.Load
import ReleaseSearch.Proofs.Filter.Chain
import ReleaseSearch.Proofs.Request.Address
import ReleaseSearch.Proofs.Results.Trouble

/-!
# Definitions that drive a search

A definition that is loaded has all that a search needs, so no step of a search finds its
configuration lacking: there is an address and a path for whatever is searched for, and whatever the
answer, reading it ends in releases or in a trouble of another kind.
-/

namespace ReleaseSearch

open Decimal Results Selector

/-- A failure that lays the blame on the configuration. -/
def Trouble.IsConfiguration : Trouble → Prop
  | .failure f => "ConfigurationError" ∈ f.kind.lineage
  | _ => False

/-! ## Reading answers -/

namespace Results

/-- The standard extractor raises nothing, so a release is unfit or it is made. -/
theorem First.unfit_of_releaseRaises {rows : List Row} {t : Trouble}
    (h : First (ReleaseRaises Quality.standard) rows t) : ∃ problems, t = .unfit problems := by
  obtain ⟨row, _, title, link, _, _, hextract | ⟨_, htexts⟩⟩ := h.exists_mem
  · rw [Quality.standard_answers title] at hextract
    cases hextract
  · exact unfit_of_textsOf htexts

theorem readData_error {body : Body} {t : Trouble} (h : readData body = .error t) :
    ¬ t.IsConfiguration := by
  have hrefuse : ∀ found, readData.orRefuse found = .error t → ¬ t.IsConfiguration := by
    intro found h
    cases found with
    | some data => cases h
    | none =>
        cases h
        simp [Trouble.IsConfiguration, Failure.search, FailureKind.lineage]
  cases body with
  | absent =>
      cases h
      exact id
  | text s => exact hrefuse _ h
  | bytes bs => exact hrefuse _ h

/-- A failure that a trouble becomes is not to blame on the configuration either. -/
theorem not_isConfiguration_of_becomes {t : Trouble} (ht : ¬ t.IsConfiguration) {f : Failure}
    (h : t.Becomes f) : ¬ (Trouble.failure f).IsConfiguration := by
  cases t with
  | failure g =>
      cases h
      exact ht
  | unfit problems =>
      obtain ⟨message, rfl⟩ := h
      simp [Trouble.IsConfiguration, Failure.search, FailureKind.lineage]
  | breakdown b =>
      obtain ⟨message, rfl⟩ := h
      simp [Trouble.IsConfiguration, Failure.search, FailureKind.lineage]

variable [Pattern.Library]

/-- **Where a row selector is there, the configuration is not to blame** for anything that an
answer raises. -/
theorem Raises.not_isConfiguration {d : Definition} {body : Body} {t : Trouble}
    (h : Raises d body Quality.standard t) (hrows : ∃ rowsAt, d.rowSelector = some rowsAt) :
    ¬ t.IsConfiguration := by
  cases h with
  | rowSelector h =>
      -- there is a row selector
      obtain ⟨rowsAt, hrows⟩ := hrows
      rw [rowSelector_eq_ok hrows] at h
      cases h
  | data _ _ h => exact readData_error h
  | path _ _ _ h =>
      rcases navigate_error h with hkind | hkind
      -- neither kind of failure of a path belongs to the configuration
      · simp [Trouble.IsConfiguration, hkind, FailureKind.lineage]
      · simp [Trouble.IsConfiguration, hkind, FailureKind.lineage]
  | dataRow _ _ _ h =>
      obtain ⟨row, _, hrow⟩ := h.exists_mem
      cases row with
      | map es =>
          obtain ⟨b, rfl⟩ := RowRaises.exists_breakdown hrow fun _ _ h => by cases h
          exact id
      | _ => cases hrow
  | dataRelease _ _ _ _ h =>
      obtain ⟨problems, rfl⟩ := h.unfit_of_releaseRaises
      exact id
  | page _ _ h => exact id
  | selector _ _ _ h => exact id
  | pageRow _ _ _ h =>
      obtain ⟨row, _, hrow⟩ := h.exists_mem
      obtain ⟨b, rfl⟩ := RowRaises.exists_breakdown hrow fun _ _ => pageValue_error
      exact id
  | pageRelease _ _ _ _ h =>
      obtain ⟨problems, rfl⟩ := h.unfit_of_releaseRaises
      exact id

theorem not_isConfiguration_of_ofBody {d : Definition}
    (hrows : ∃ rowsAt, d.rowSelector = some rowsAt) {body : Body} {name : Option String}
    {t : Trouble} (h : (ofBody d body name Quality.standard).outcome = .error t) :
    ¬ t.IsConfiguration := by
  rcases outcome_ofBody d body name Quality.standard with hsame | ⟨t', f, hends, hguarded, hbecomes⟩
  · exact (unguarded_error_iff.mp (hsame.symm.trans h)).not_isConfiguration hrows
  · rw [hguarded] at h
    cases h
    exact not_isConfiguration_of_becomes
      ((unguarded_error_iff.mp hends).not_isConfiguration hrows) hbecomes

end Results

/-! ## Requests -/

namespace Definition

variable {d : Definition}

/-- There is a path for whatever is searched for. -/
theorem CanDrive.exists_searchPath (h : d.CanDrive) (options : SearchOptions) :
    ∃ path ∈ d.searchPaths, d.searchPath options = .ok path := by
  obtain ⟨first, rest, hpaths⟩ := List.exists_cons_of_ne_nil h.searchPath
  unfold Definition.searchPath
  rw [hpaths]
  refine ⟨_, ?_, rfl⟩
  cases hfind : (first :: rest).find? fun p =>
    p.categories.any (options.categories.contains ·) with
  | none => exact List.mem_cons_self
  | some path => exact List.mem_of_find?_eq_some hfind

/-- The address is the first one of the site with the path, once that is filled. -/
theorem CanDrive.exists_searchUrl_eq (h : d.CanDrive) (options : SearchOptions) :
    ∃ (template : String) (address : String → String), d.searchUrl options =
      address <$> (Template.fill true options template).mapError .breakdown := by
  obtain ⟨base, others, hurls⟩ := List.exists_cons_of_ne_nil h.baseUrl
  obtain ⟨path, _, hpath⟩ := h.exists_searchPath options
  unfold Definition.searchUrl Definition.baseUrl Definition.filledPath
  rw [hurls, hpath]
  exact ⟨path.template, _, rfl⟩

/-- Only a number that is too long for words keeps an address from being made. -/
theorem CanDrive.not_isConfiguration_of_searchUrl (h : d.CanDrive) {options : SearchOptions}
    {t : Trouble} (ht : d.searchUrl options = .error t) : ¬ t.IsConfiguration := by
  obtain ⟨template, address, hurl⟩ := h.exists_searchUrl_eq options
  rw [hurl, map_eq_error_iff, mapError_eq_error_iff] at ht
  obtain ⟨b, _, rfl⟩ := ht
  exact not_false

/-- There is an address for whatever is searched for, if all numbers in it have words. -/
theorem CanDrive.exists_searchUrl (h : d.CanDrive) {options : SearchOptions}
    (hnumbers : ∀ n ∈ options.numbers, (Data.int n).isWritable = true) :
    ∃ url, d.searchUrl options = .ok url := by
  obtain ⟨template, address, hurl⟩ := h.exists_searchUrl_eq options
  obtain ⟨words, hwords⟩ := Template.exists_given (Template.queryText true options) hnumbers
  rw [hurl, Template.fill_of_given hwords]
  exact ⟨_, rfl⟩

/-- **Whatever is loaded can drive a search.**  Its delay is not negative; no request for it, and no
answer to one, finds its configuration lacking; and if no number in what is searched for is too
long for words, there is a request. -/
theorem load_canDrive [Pattern.Library] {settings : Settings} {raw : Data} {d : Definition}
    (h : (load settings raw).outcome = .ok d) :
    d.CanDrive ∧
      (∀ x, d.requestDelay = some x → 0 ≤ x) ∧
      (∀ options,
        (∀ t, d.searchUrl options = .error t → ¬ t.IsConfiguration) ∧
        (∀ t, (RequestParams.ofDefinition d options).mapError Trouble.breakdown = .error t →
          ¬ t.IsConfiguration) ∧
        ((∀ n ∈ options.numbers, (Data.int n).isWritable = true) →
          (∃ url, d.searchUrl options = .ok url) ∧
            ∃ path ∈ d.searchPaths, d.searchPath options = .ok path ∧
              ∃ params, RequestParams.ofDefinition d options = .ok params ∧
                params.method = path.method)) ∧
      (∀ body name t, (ofBody d body name Quality.standard).outcome = .error t →
        ¬ t.IsConfiguration) := by
  have hdrives := canDrive_of_load h
  refine ⟨hdrives, fun x hx => requestDelay_nonneg_of_load h hx, fun options => ?_,
    fun body name t ht => ?_⟩
  · refine ⟨fun t ht => hdrives.not_isConfiguration_of_searchUrl ht, fun t ht => ?_,
      fun hnumbers => ⟨hdrives.exists_searchUrl hnumbers, ?_⟩⟩
    -- Building the parameters can only break down, by numbers that cannot be put in words.
    · obtain ⟨b, _, rfl⟩ := mapError_eq_error_iff.mp ht
      exact not_false
    · obtain ⟨path, hmem, hpath⟩ := hdrives.exists_searchPath options
      obtain ⟨words, hwords⟩ := Template.exists_given options.query hnumbers
      obtain ⟨params, hparams⟩ := Template.exists_ofDefinition hwords d
      exact ⟨path, hmem, hpath, params, hparams, Template.method_of_ofDefinition hparams hpath⟩
  · obtain ⟨rowsAt, hrows, _⟩ := hdrives.rowSelector
    exact not_isConfiguration_of_ofBody ⟨rowsAt, hrows⟩ ht

/-! ## A definition with a delay -/

open Pattern.Bare

/-- The delay of what is loaded from a written definition, if there is one. -/
def loadedDelay? (raw : Data) : Option Float :=
  (load {} raw).outcome.toOption.bind (·.requestDelay)

theorem exists_of_loadedDelay? {raw : Data} (h : (loadedDelay? raw).isSome = true) :
    ∃ d x, (load {} raw).outcome = .ok d ∧ d.requestDelay = some x := by
  obtain ⟨x, hx⟩ := Option.isSome_iff_exists.mp h
  obtain ⟨d, hload, hdelay⟩ := Option.bind_eq_some_iff.mp hx
  cases houtcome : (load {} raw).outcome with
  | error t =>
      rw [houtcome] at hload
      cases hload
  | ok d' =>
      rw [houtcome] at hload
      cases hload
      exact ⟨d, x, rfl, hdelay⟩

/-- Two seconds. -/
theorem load_canDrive_sample :
    ∃ d x, (load {} (sampleWritten samplePaths (.int 2))).outcome = .ok d ∧ d.CanDrive ∧
      d.requestDelay = some x ∧ 0 ≤ x ∧ ∃ url, d.searchUrl {} = .ok url := by
  have hdelay : (loadedDelay? (sampleWritten samplePaths (.int 2))).isSome = true := by
    decide +kernel
  obtain ⟨d, x, hload, hx⟩ := exists_of_loadedDelay? hdelay
  obtain ⟨hdrives, hnonneg, hrequest, _⟩ := load_canDrive hload
  obtain ⟨_, _, hwritable⟩ := hrequest {}
  exact ⟨d, x, hload, hdrives, hx, hnonneg x hx,
    (hwritable (by simp [SearchOptions.numbers])).1⟩

end Definition

end ReleaseSearch
