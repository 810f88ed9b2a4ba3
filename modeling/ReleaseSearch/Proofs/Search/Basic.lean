import ReleaseSearch.Proofs.Limiter.Endless
import ReleaseSearch.Proofs.Results.Trouble
import ReleaseSearch.Proofs.Search.Execute
import ReleaseSearch.Search.Basic

/-!
# How searches end

A search ends in releases or in a failure.  `Search.Raises` lists what can be raised on the way:
by a step of the execution, or at one of the places where the response is read.  The main statement
is that a search ends in a failure exactly if something is raised; that a failure which is raised
comes out as it is, and anything else as a plain failure of the search; and that the correlation is
left as it was found, while every entry of the search carries its id and its indexer.
-/

namespace ReleaseSearch.Search

open Decimal Http Results

theorem becomes_settle (d : Definition) (t : Trouble) : t.Becomes (settle d t).1 := by
  cases t with
  | failure f => rfl
  | unfit problems => exact ⟨_, rfl⟩
  | breakdown b => exact ⟨_, rfl⟩

def searchCorrelation (d : Definition) (searchId : String) (c : Correlation) : Correlation :=
  { c with searchId := some searchId, indexer := some d.id }

section Searching

variable [Pattern.Library]

section Raises

variable (s : Surroundings) (d : Definition) (options : SearchOptions)
  (extract : Quality.Extractor) (limiter : Limiter Float) (now : Float)

inductive Raises : Trouble → Prop
  | execute {t : Trouble} (h : ExecuteRaises s d options limiter now t) : Raises t
  | read {draft : Draft} {r : Response} {t : Trouble}
      (hr : Responds s d options limiter now draft r) (hstatus : r.status = 200)
      (h : Results.Raises d (.text r.text) extract t) : Raises t

end Raises

variable {s : Surroundings} {d : Definition} {options : SearchOptions}
  {extract : Quality.Extractor} {limiter : Limiter Float} {now : Float} {journal : Journal}

/-! ## Executing and reading -/

/-- Without a response of status 200 nothing is read. -/
theorem pipeline_of_execute_error {t : Trouble}
    (h : (execute s d options limiter now journal).outcome? = some (.error t)) :
    (pipeline s d options extract limiter now journal).outcome? = some (.error t) := by
  unfold pipeline
  simp only [h]

/-- A response of status 200 is read. -/
theorem pipeline_of_responds {draft : Draft} {r : Response}
    (hr : Responds s d options limiter now draft r) (hstatus : r.status = 200)
    (journal : Journal) :
    (pipeline s d options extract limiter now journal).outcome? =
        some (readReleases d extract r).outcome ∧
      (pipeline s d options extract limiter now journal).exchange =
        some (call s d draft.url draft.params) := by
  obtain ⟨hok, hexchange⟩ := execute_of_responds hr hstatus journal
  unfold pipeline
  simp only [hok]
  exact ⟨trivial, hexchange⟩

/-- What is raised ends the search, as it is or as the failure that it becomes. -/
theorem pipeline_of_raises {t : Trouble} (h : Raises s d options extract limiter now t)
    (journal : Journal) :
    (pipeline s d options extract limiter now journal).outcome? = some (.error t) ∨
      ∃ f, (pipeline s d options extract limiter now journal).outcome? =
        some (.error (.failure f)) ∧ t.Becomes f := by
  cases h with
  | execute h => exact .inl (pipeline_of_execute_error (execute_of_raises h journal))
  | read hr hstatus h =>
      rw [(pipeline_of_responds hr hstatus journal).1]
      rcases outcome_ofBody_of_raises h (some d.displayName) with hsame | ⟨f, hends, hbecomes⟩
      · exact .inl (congrArg some hsame)
      · exact .inr ⟨f, congrArg some hends, hbecomes⟩

/-- A search that does not end in releases was ended by something that is raised. -/
theorem exists_raises_of_pipeline {t : Trouble}
    (h : (pipeline s d options extract limiter now journal).outcome? = some (.error t)) :
    ∃ t', Raises s d options extract limiter now t' := by
  rcases execute_cases s d options limiter now with ⟨draft, r, hr, hstatus⟩ | ⟨t', ht'⟩ | hwaits
  · rw [(pipeline_of_responds hr hstatus journal).1] at h
    obtain ⟨t', ht'⟩ := exists_raises_of_ofBody (Option.some.inj h)
    exact ⟨t', .read hr hstatus ht'⟩
  · exact ⟨t', .execute ht'⟩
  · unfold pipeline at h
    simp only [(execute_eq_none_iff journal).mpr hwaits] at h
    cases h

/-- A search that ends in releases has come by a response of status 200. -/
theorem exists_responds_of_pipeline {releases : List Release}
    (h : (pipeline s d options extract limiter now journal).outcome? = some (.ok releases)) :
    ∃ draft r, Responds s d options limiter now draft r ∧ r.status = 200 := by
  rcases execute_cases s d options limiter now with hresponds | ⟨t, ht⟩ | hwaits
  · exact hresponds
  · rw [pipeline_of_execute_error (execute_of_raises ht journal)] at h
    cases h
  · unfold pipeline at h
    simp only [(execute_eq_none_iff journal).mpr hwaits] at h
    cases h

theorem pipeline_eq_none_iff (journal : Journal) :
    (pipeline s d options extract limiter now journal).outcome? = none ↔
      ∃ draft, build d options = .ok draft ∧ (awaitTurn s d limiter now).answer = .waiting := by
  rw [← execute_eq_none_iff journal]
  unfold pipeline
  dsimp only
  split
  · next h => simp [h]
  · next h => simp [h]
  · next h => simp [h]

theorem extends_pipeline (s : Surroundings) (d : Definition) (options : SearchOptions)
    (extract : Quality.Extractor) (limiter : Limiter Float) (now : Float) (journal : Journal) :
    journal.Extends (pipeline s d options extract limiter now journal).journal := by
  have hsent := extends_execute s d options limiter now journal
  unfold pipeline
  dsimp only
  split
  · exact hsent
  · exact hsent
  · exact hsent.trans (Journal.extends_writeAll _ _)

/-! ## Settling -/

/-- What has come of a search: releases stay, a trouble is settled, and a search that waits has come
to nothing yet. -/
theorem searchWithin_result? (s : Surroundings) (d : Definition) (options : SearchOptions)
    (extract : Quality.Extractor) (limiter : Limiter Float) (now : Float) (journal : Journal) :
    (searchWithin s d options extract limiter now journal).1.result? =
      (pipeline s d options extract limiter now (journal.write (startEntry d options))).outcome?.map
        (·.mapError fun t => (settle d t).1) := by
  unfold searchWithin
  dsimp only
  split
  · next h => rw [h]; rfl
  · next h => rw [h]; rfl
  · next h => rw [h]; rfl

theorem searchWithin_exchange (s : Surroundings) (d : Definition) (options : SearchOptions)
    (extract : Quality.Extractor) (limiter : Limiter Float) (now : Float) (journal : Journal) :
    (searchWithin s d options extract limiter now journal).1.exchange =
      (pipeline s d options extract limiter now
        (journal.write (startEntry d options))).exchange := by
  unfold searchWithin
  dsimp only
  split <;> rfl

/-- What is raised ends in the failure that it becomes. -/
theorem searchWithin_of_raises {t : Trouble} (h : Raises s d options extract limiter now t)
    (journal : Journal) :
    ∃ f, (searchWithin s d options extract limiter now journal).1.result? = some (.error f) ∧
      t.Becomes f := by
  rw [searchWithin_result?]
  rcases pipeline_of_raises h (journal.write (startEntry d options)) with
    hsame | ⟨f, hguarded, hbecomes⟩
  · rw [hsame]
    exact ⟨_, rfl, becomes_settle d t⟩
  · rw [hguarded]
    exact ⟨f, rfl, hbecomes⟩

/-- A search begins with its first entry, and goes on from there. -/
theorem extends_searchWithin (s : Surroundings) (d : Definition) (options : SearchOptions)
    (extract : Quality.Extractor) (limiter : Limiter Float) (now : Float) (journal : Journal) :
    (journal.write (startEntry d options)).Extends
      (searchWithin s d options extract limiter now journal).2 := by
  have hdone := extends_pipeline s d options extract limiter now
    (journal.write (startEntry d options))
  unfold searchWithin
  dsimp only
  split
  · exact hdone
  · exact hdone.trans (Journal.extends_write _ _)
  · exact hdone.trans (Journal.extends_write _ _)

/-! ## Searching -/

/-- What has come of a search, and the journal afterwards. -/
theorem exists_search_eq {searchId : String} (hid : searchId ≠ "") (hname : d.id ≠ "")
    (journal : Journal) :
    ∃ entries : List Entry, search s d options extract limiter now searchId journal =
      ((searchWithin s d options extract limiter now
          { journal with correlation := searchCorrelation d searchId journal.correlation }).1,
        ⟨journal.correlation, journal.written ++ (startEntry d options :: entries).map fun entry =>
          ⟨entry, searchCorrelation d searchId journal.correlation⟩⟩) := by
  have henter := Correlation.Context.enter_search hid hname journal.correlation
  obtain ⟨entries, hentries⟩ := extends_searchWithin s d options extract limiter now
    { journal with correlation := searchCorrelation d searchId journal.correlation }
  have hwritten : (searchWithin s d options extract limiter now
      { journal with correlation := searchCorrelation d searchId journal.correlation }).2 =
      Journal.writeAll
        { journal with correlation := searchCorrelation d searchId journal.correlation }
        (startEntry d options :: entries) := hentries
  refine ⟨entries, ?_⟩
  unfold search
  rw [Journal.within_eq rfl journal (congrArg (Journal.mk · _) henter.symm) hwritten, henter]
  rfl

/-- **How a search ends.**

* Releases come from a response of status 200, the last that the transport gave.
* Whatever is raised on the way ends the search in the failure that it becomes: a failure stays as
  it is, and anything else is a plain failure of the search.
* A search ends in a failure for no other reason.
* It does not end only while it waits for its turn, and if the clock goes on it ends.
* The correlation afterwards is what it was before.
* Every entry of the search was written while the correlation had its id and its indexer. -/
theorem search_ends (s : Surroundings) {d : Definition} (options : SearchOptions)
    (extract : Quality.Extractor) (limiter : Limiter Float) (now : Float) {searchId : String}
    (hid : searchId ≠ "") (hname : d.id ≠ "") (journal : Journal) :
    (∀ releases,
      (search s d options extract limiter now searchId journal).1.result? = some (.ok releases) →
      ∃ e r, (search s d options extract limiter now searchId journal).1.exchange = some e ∧
        e.outcome = .ok r ∧ s.transport e.requests.reverse = .response r ∧ r.status = 200) ∧
    (∀ t, Raises s d options extract limiter now t →
      ∃ f, (search s d options extract limiter now searchId journal).1.result? =
        some (.error f) ∧ t.Becomes f) ∧
    (∀ f, (search s d options extract limiter now searchId journal).1.result? = some (.error f) →
      ∃ t, Raises s d options extract limiter now t ∧ t.Becomes f) ∧
    ((search s d options extract limiter now searchId journal).1.result? = none ↔
      ∃ draft, build d options = .ok draft ∧ (awaitTurn s d limiter now).answer = .waiting) ∧
    (Limiter.GoesOn s.sleep → ∃ steps, ∀ fuel, steps ≤ fuel →
      (search { s with sleepLimit := fuel } d options extract limiter now searchId
        journal).1.result? ≠ none) ∧
    (search s d options extract limiter now searchId journal).2.correlation =
      journal.correlation ∧
    (∃ records, (search s d options extract limiter now searchId journal).2.written =
        journal.written ++ records ∧ records ≠ [] ∧
      ∀ record ∈ records,
        record.correlation =
          { journal.correlation with searchId := some searchId, indexer := some d.id } ∧
        Record.marks record.correlation = (searchId, d.id)) := by
  have hwaits (s : Surroundings) :
      (search s d options extract limiter now searchId journal).1.result? = none ↔
        ∃ draft, build d options = .ok draft ∧ (awaitTurn s d limiter now).answer = .waiting := by
    obtain ⟨_, hsearch⟩ := @exists_search_eq _ s d options extract limiter now _ hid hname journal
    rw [hsearch, searchWithin_result?, Option.map_eq_none_iff, pipeline_eq_none_iff]
  obtain ⟨entries, hsearch⟩ :=
    @exists_search_eq _ s d options extract limiter now _ hid hname journal
  refine ⟨?releases, ?raised, ?failure, hwaits s, ?clock, congrArg (·.2.correlation) hsearch,
    ?records⟩
  case releases =>
    intro releases h
    rw [hsearch] at h ⊢
    rw [searchWithin_result?] at h
    obtain ⟨outcome, hends, houtcome⟩ := Option.map_eq_some_iff.mp h
    obtain rfl := mapError_eq_ok_iff.mp houtcome
    obtain ⟨draft, r, hr, hstatus⟩ := exists_responds_of_pipeline hends
    refine ⟨_, r, ?_, hr.response, call_response hr.response, hstatus⟩
    exact (searchWithin_exchange ..).trans (pipeline_of_responds hr hstatus _).2
  case raised =>
    intro t ht
    rw [hsearch]
    exact searchWithin_of_raises ht _
  case failure =>
    intro f h
    rw [hsearch] at h
    have hresult := h
    rw [searchWithin_result?] at h
    obtain ⟨outcome, hends, houtcome⟩ := Option.map_eq_some_iff.mp h
    obtain ⟨t, rfl, _⟩ := mapError_eq_error_iff.mp houtcome
    -- The trouble that was raised ends in one failure only, so it is the one that came out.
    obtain ⟨t', ht'⟩ := exists_raises_of_pipeline hends
    obtain ⟨f', hf', hbecomes⟩ := searchWithin_of_raises ht'
      { journal with correlation := searchCorrelation d searchId journal.correlation }
    cases hresult.symm.trans hf'
    exact ⟨t', ht', hbecomes⟩
  case clock =>
    intro hsleep
    obtain ⟨visit, steps, hvisit, hanswered, _⟩ := Limiter.exists_visit hsleep limiter d.id
      d.requestDelay (limitTimeout s.settings) now
    refine ⟨steps, fun fuel hfuel => mt (hwaits _).mp ?_⟩
    rintro ⟨_, _, hwaiting⟩
    exact hanswered (hvisit fuel hfuel ▸ hwaiting)
  case records =>
    refine ⟨_, congrArg (·.2.written) hsearch, by simp, fun record hrecord => ?_⟩
    obtain ⟨entry, _, rfl⟩ := List.mem_map.mp hrecord
    exact ⟨rfl, Correlation.marks_of_set rfl rfl hid hname⟩

end Searching

/-! ## A search -/

open Pattern.Bare

/-- An indexer whose requests need not be apart. -/
def sampleTracker : Definition where
  id := "sample"
  baseUrls := ["https://example.org"]
  searchPaths := [{ template := "/search" }]

def sampleRefusal : Failure := { kind := .authentication, message := "Log in first" }

/-- A transport that answers every request with that failure, and a clock that goes on. -/
def sampleSurroundings : Surroundings where
  transport := fun _ => .fault { kind := .failure sampleRefusal }
  sleep := Limiter.onTime

def sampleOuter : Journal where
  correlation := { searchId := some "outer", extra := [("user", .int 7)] }

def sampleSearch : Outcome × Journal :=
  search sampleSurroundings sampleTracker {} Quality.standard {} 0 "1a2b3c4d" sampleOuter

/-- The failure comes out as it was raised, and the correlation is the outer one again. -/
theorem search_ends_sample :
    Limiter.GoesOn sampleSurroundings.sleep ∧
      sampleSearch.1.result? = some (.error sampleRefusal) ∧
      sampleSearch.2.correlation = sampleOuter.correlation := by
  obtain ⟨_, hraised, _, _, _, hafter, _⟩ := search_ends sampleSurroundings {} Quality.standard {} 0
    (show "1a2b3c4d" ≠ "" by decide) (show sampleTracker.id ≠ "" by decide) sampleOuter
  -- the request is built and sent, which can be evaluated
  have hcalled : (build sampleTracker {}).toOption.any (fun draft =>
      (paramsEntry draft.params).toOption.isSome &&
        !(call sampleSurroundings sampleTracker draft.url draft.params).requests.isEmpty) =
      true := by decide +kernel
  cases hbuilt : build sampleTracker {} with
  | error t =>
      rw [hbuilt] at hcalled
      cases hcalled
  | ok draft =>
      rw [hbuilt] at hcalled
      obtain ⟨hparams, hsent⟩ := Bool.and_eq_true_iff.mp hcalled
      cases hentry : paramsEntry draft.params with
      | error b =>
          rw [hentry] at hparams
          cases hparams
      | ok entry =>
          have hcalls : Calls sampleSurroundings sampleTracker {} {} 0 draft :=
            ⟨⟨hbuilt, rfl⟩, entry, hentry⟩
          have hrequests :
              (call sampleSurroundings sampleTracker draft.url draft.params).requests ≠ [] := by
            rwa [Bool.not_eq_true', List.isEmpty_eq_false_iff] at hsent
          -- the transport refuses it, and a failure stays as it is
          obtain ⟨f, hf, hbecomes⟩ := hraised _ (.execute (.transport hcalls hrequests rfl))
          obtain rfl : f = sampleRefusal := hbecomes
          unfold sampleSearch
          exact ⟨Limiter.onTime_goesOn, hf, hafter⟩

end ReleaseSearch.Search
