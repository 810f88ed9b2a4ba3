import ReleaseSearch.Proofs.Http.Query
import ReleaseSearch.Proofs.Request.Template
import ReleaseSearch.Proofs.Search.Effects

/-!
# What a search asks for

What is searched for goes into the path of a search and into its inputs.  The main statement says
which of it arrives in the query of the request that is sent: the inputs always, and the fields of
the path only if there are no inputs, or if an input says the same.
-/

namespace ReleaseSearch

open Http Text

/-! ## The address -/

namespace Definition

variable {d : Definition} {options : SearchOptions}

/-- The fields in the query of the path of a search; without a path there are none. -/
def pathFields (d : Definition) (options : SearchOptions) : List (String × String) :=
  match d.filledPath options with
  | .ok path => ((Parts.queryOf path.toList).map Form.read).getD []
  | .error _ => []

/-- An address that leaves the query to the path: it has none of its own, and no fragment. -/
def IsBare (base : String) : Prop := '?' ∉ base.toList ∧ '#' ∉ base.toList

theorem queryOf_dropWhile (cs : List Char) :
    Parts.queryOf (cs.dropWhile (· == '/')) = Parts.queryOf cs := by
  have hslashes : ∀ c ∈ cs.takeWhile (· == '/'), c = '/' := fun c hc => by
    simpa using List.mem_takeWhile_imp hc
  have hquery : '?' ∉ cs.takeWhile (· == '/') := fun h => absurd (hslashes _ h) (by decide)
  have hfragment : '#' ∉ cs.takeWhile (· == '/') := fun h => absurd (hslashes _ h) (by decide)
  conv_rhs => rw [← List.takeWhile_append_dropWhile (p := (· == '/')) (l := cs),
    Parts.queryOf_append hquery hfragment]

/-- The query of the address is that of the path. -/
theorem queryOf_searchUrl {base url : String} (hbase : d.baseUrl = .ok base) (hbare : IsBare base)
    (hurl : d.searchUrl options = .ok url) :
    ((Parts.queryOf url.toList).map Form.read).getD [] = d.pathFields options := by
  unfold pathFields
  unfold searchUrl at hurl
  rw [hbase] at hurl
  cases hpath : d.filledPath options with
  | error t =>
      rw [hpath] at hurl
      cases hurl
  | ok path =>
      rw [hpath] at hurl
      cases hurl
      have hslash : '?' ∉ ['/'] ∧ '#' ∉ ['/'] := by decide
      rw [String.toList_append, String.toList_append, String.toList_ofList, List.append_assoc,
        Parts.queryOf_append hbare.1 hbare.2, Parts.queryOf_append hslash.1 hslash.2,
        String.toList_ofList, queryOf_dropWhile]

end Definition

namespace Search

variable {s : Surroundings} {d : Definition} {options : SearchOptions} {limiter : Limiter Float}
  {now : Float} {journal : Journal}

/-- The inputs of a search, as fields; there are none if they cannot be put in words. -/
def inputFields (d : Definition) (options : SearchOptions) : List (String × String) :=
  match RequestParams.ofDefinition d options with
  | .ok params => Form.fields params.inputs
  | .error _ => []

section Params

variable {params : RequestParams}

theorem inputFields_eq (h : RequestParams.ofDefinition d options = .ok params) :
    inputFields d options = Form.fields params.inputs := by
  unfold inputFields
  rw [h]

theorem inputs_eq_nil_iff (h : RequestParams.ofDefinition d options = .ok params) :
    params.inputs = [] ↔ d.inputs = [] := by
  have hlength := (Template.forall₂_of_ofDefinition h).length_eq
  rw [← List.length_eq_zero_iff, ← List.length_eq_zero_iff, hlength]

end Params

/-- What is built for a search. -/
theorem exists_of_build {draft : Draft} (h : build d options = .ok draft) :
    d.searchUrl options = .ok draft.url ∧
      RequestParams.ofDefinition d options = .ok draft.params := by
  obtain ⟨url, hurl, h⟩ := bind_eq_ok_iff.mp h
  obtain ⟨params, hparams, h⟩ := bind_eq_ok_iff.mp h
  cases h
  exact ⟨hurl, mapError_eq_ok_iff.mp hparams⟩

/-! ## The request -/

/-- The first request of a call is the one that was made for it. -/
theorem call_sends {url : String} {params : RequestParams} {request : Request}
    (h : (call s d url params).requests.head? = some request) :
    ∃ headers, Request.make params.method url params.inputs headers = .ok request := by
  unfold call at h
  simp only at h
  split at h
  · cases h
  · next made hmade =>
      rw [head?_requests_exchange] at h
      cases h
      exact ⟨_, hmade⟩

/-- **What arrives of a search.**  Let `request` be the first request of a search whose path is
asked for by `get`.

* Its query has all inputs.
* If there are inputs, it has nothing else, whatever the path asks for.
* If there are none, it has the fields of the address.
* So what the path asks for arrives if there are no inputs; if there are, it arrives only if an
  input says the same. -/
theorem request_asks {path : SearchPath} {e : Exchange} {request : Request}
    (hpath : d.searchPath options = .ok path) (hget : path.method = .get)
    (hcalled : (execute s d options limiter now journal).exchange = some e)
    (hsent : e.requests.head? = some request) :
    (∀ f ∈ inputFields d options, f ∈ request.fields) ∧
    (d.inputs ≠ [] → request.fields = inputFields d options) ∧
    (∀ url, d.searchUrl options = .ok url → d.inputs = [] →
      request.fields = ((Parts.queryOf url.toList).map Form.read).getD []) ∧
    (∀ base, d.baseUrl = .ok base → Definition.IsBare base → ∀ f ∈ d.pathFields options,
      f ∈ request.fields ↔ d.inputs = [] ∨ f ∈ inputFields d options) := by
  obtain ⟨draft, hcalls, rfl⟩ := execute_exchange_iff.mp hcalled
  obtain ⟨hurl, hparams⟩ := exists_of_build hcalls.built
  obtain ⟨headers, hmade⟩ := call_sends hsent
  rw [Template.method_of_ofDefinition hparams hpath, hget] at hmade
  have hfields := Request.fields_of_make hmade
  -- The inputs take the place of the query of the address, if there are any.
  have hsome : d.inputs ≠ [] → request.fields = inputFields d options := by
    intro hinputs
    rw [hfields, if_neg (mt (inputs_eq_nil_iff hparams).mp hinputs), inputFields_eq hparams]
  refine ⟨fun f hf => ?_, hsome, fun url' hurl' hinputs => ?_, fun base hbase hbare f hf => ?_⟩
  · by_cases hinputs : d.inputs = []
    · rw [inputFields_eq hparams, (inputs_eq_nil_iff hparams).mpr hinputs] at hf
      cases hf
    · rwa [hsome hinputs]
  · rw [hurl] at hurl'
    cases hurl'
    rw [hfields, if_pos ((inputs_eq_nil_iff hparams).mpr hinputs)]
  · by_cases hinputs : d.inputs = []
    -- a bare base has no query of its own
    · rw [hfields, if_pos ((inputs_eq_nil_iff hparams).mpr hinputs),
        Definition.queryOf_searchUrl hbase hbare hurl]
      exact ⟨fun _ => .inl hinputs, fun _ => hf⟩
    · rw [hsome hinputs]
      exact ⟨.inr, fun h => h.resolve_left hinputs⟩

/-! ## A search with a path and an input -/

/-- An indexer that takes the keywords in the path, and a category as an input. -/
def mixedTracker : Definition where
  id := "mixed"
  baseUrls := ["https://example.org/"]
  searchPaths := [{ template := "/search?q={{ .Keywords }}" }]
  inputs := [("cat", .text "1")]

def mixedOptions : SearchOptions := { query := "foo" }

def mixedRequest? : Option Request :=
  (execute silence mixedTracker mixedOptions {} 0 {}).exchange.bind (·.requests.head?)

/-- The category arrives. -/
theorem request_asks_mixed : ∃ request, mixedRequest? = some request ∧
    request.fields = [("cat", "1")] := by
  have hsent : mixedRequest?.isSome = true := by decide +kernel
  obtain ⟨request, hrequest⟩ := Option.isSome_iff_exists.mp hsent
  obtain ⟨e, hcalled, hhead⟩ := Option.bind_eq_some_iff.mp hrequest
  obtain ⟨_, hfields, _⟩ := request_asks
    (show mixedTracker.searchPath mixedOptions = .ok _ from rfl) rfl hcalled hhead
  refine ⟨request, hrequest, (hfields (by decide)).trans ?_⟩
  decide +kernel

/-- The keywords do not arrive, though the path asks for them. -/
theorem keywords_lost : ("q", "foo") ∈ mixedTracker.pathFields mixedOptions ∧
    ∃ request, mixedRequest? = some request ∧ ("q", "foo") ∉ request.fields := by
  have hfields : mixedRequest?.map (·.fields) = some [("cat", "1")] := by decide +kernel
  obtain ⟨request, hrequest, hfields⟩ := Option.map_eq_some_iff.mp hfields
  refine ⟨by decide +kernel, request, hrequest, ?_⟩
  rw [hfields]
  decide

end Search

end ReleaseSearch
