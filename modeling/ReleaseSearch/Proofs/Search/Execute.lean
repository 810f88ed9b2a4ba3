import Mathlib.Tactic.SplitIfs
import ReleaseSearch.Proofs.Http.Exchange
import ReleaseSearch.Proofs.Log.Journal
import ReleaseSearch.Proofs.Run
import ReleaseSearch.Search.Execute

/-!
# Where executing a search goes wrong

A search is executed in four steps: its request is built, the turn of its indexer comes, the
transport is called, and the status of the response is checked.  `ExecuteRaises` lists the troubles
of the steps.  The main statements are that each of them ends the execution and that nothing else
does, so that an execution whose turn is answered ends in a response exactly if there is one and its
status is 200.
-/

namespace ReleaseSearch

open Decimal Http

/-! ## Status codes -/

/-- Every status but 200 stands for a failure. -/
theorem Failure.ofStatus?_eq_none_iff {status : Int} {excerpt : Option String}
    {delay : Option Number} : Failure.ofStatus? status excerpt delay = none ↔ status = 200 := by
  unfold ofStatus?
  by_cases h : status = 200
  · simp [h]
  · simp only [h, if_false, iff_false]
    split_ifs <;> simp

namespace Search

/-- The failure that the status of a response stands for. -/
def statusFailure? (r : Response) : Option Failure :=
  Failure.ofStatus? r.status r.excerpt? (r.retryAfter?.map .real)

theorem outcome_validate (r : Response) :
    (validate r).outcome = (statusFailure? r).elim (.ok ()) fun f => .error (.failure f) := by
  unfold validate
  by_cases h : r.status = 200
  · have hnone : statusFailure? r = none := Failure.ofStatus?_eq_none_iff.mpr h
    rw [if_neg (not_not_intro h), hnone]
    rfl
  · rw [if_pos h]
    -- The entries depend on the status, but none of them ends the check.
    cases hf : statusFailure? r with
    | none =>
        unfold statusFailure? at hf
        split_ifs <;> simp [hf]
    | some f =>
        unfold statusFailure? at hf
        split_ifs <;> simp [hf]

theorem outcome_checked (r : Response) :
    (checked r).outcome = (statusFailure? r).elim (.ok r) fun f => .error (.failure f) := by
  unfold checked
  rw [Run.outcome_bind, outcome_validate]
  cases statusFailure? r with
  | none => rfl
  | some f => rfl

end Search

namespace Search

/-! ## Waiting -/

theorem turn?_eq_none_iff {service : String} {answer : Limiter.Answer Float} :
    turn? service answer = none ↔ answer = .waiting := by
  cases answer <;> simp [turn?]

/-! ## Calling -/

/-- A call is an exchange, unless there is no request to begin with. -/
theorem call_cases (s : Surroundings) (d : Definition) (url : String) (params : RequestParams) :
    (∃ fault, call s d url params = ⟨[], .error fault⟩) ∨
      ∃ request, call s d url params = exchange s.transport d.followRedirect request := by
  unfold call
  simp only
  split
  · next fault _ => exact .inl ⟨fault, rfl⟩
  · next request _ => exact .inr ⟨request, rfl⟩

/-- A fault of the transport is the fault of the call. -/
theorem call_outcome_of_fault {s : Surroundings} {d : Definition} {url : String}
    {params : RequestParams} {fault : Fault} (hsent : (call s d url params).requests ≠ [])
    (h : s.transport (call s d url params).requests.reverse = .fault fault) :
    (call s d url params).outcome = .error fault := by
  rcases call_cases s d url params with ⟨fault', hcall⟩ | ⟨request, hcall⟩
  · rw [hcall] at hsent
    exact absurd rfl hsent
  · rw [hcall] at h ⊢
    exact (exchange_agrees s.transport d.followRedirect request).fault fault h

/-- The response of a call is the last one of the transport. -/
theorem call_response {s : Surroundings} {d : Definition} {url : String}
    {params : RequestParams} {r : Response} (h : (call s d url params).outcome = .ok r) :
    s.transport (call s d url params).requests.reverse = .response r := by
  rcases call_cases s d url params with ⟨fault, hcall⟩ | ⟨request, hcall⟩
  · rw [hcall] at h
    cases h
  · rw [hcall] at h ⊢
    exact (exchange_agrees s.transport d.followRedirect request).response r h

/-! ## Together -/

section Execute

variable (s : Surroundings) (d : Definition) (options : SearchOptions) (limiter : Limiter Float)
  (now : Float)

structure TurnComes (draft : Draft) : Prop where
  built : build d options = .ok draft
  turn : turn? d.id (awaitTurn s d limiter now).answer = some (.ok ())

/-- The transport is called for what was built. -/
structure Calls (draft : Draft) : Prop extends TurnComes s d options limiter now draft where
  worded : ∃ entry, paramsEntry draft.params = .ok entry

/-- A search comes as far as a response, whatever its status. -/
structure Responds (draft : Draft) (r : Response) : Prop extends
    Calls s d options limiter now draft where
  response : (call s d draft.url draft.params).outcome = .ok r

/-- The troubles that executing a search can raise, each at its step.  The steps before it have
gone well. -/
inductive ExecuteRaises : Trouble → Prop
  | build {t : Trouble} (h : build d options = .error t) : ExecuteRaises t
  | turn {draft : Draft} {t : Trouble} (hbuilt : Search.build d options = .ok draft)
      (h : turn? d.id (awaitTurn s d limiter now).answer = some (.error t)) : ExecuteRaises t
  | params {draft : Draft} {b : Breakdown} (hturn : TurnComes s d options limiter now draft)
      (h : paramsEntry draft.params = .error b) : ExecuteRaises (.breakdown b)
  | transport {draft : Draft} {fault : Fault} (hcalls : Calls s d options limiter now draft)
      (hsent : (call s d draft.url draft.params).requests ≠ [])
      (h : s.transport (call s d draft.url draft.params).requests.reverse = .fault fault) :
      ExecuteRaises (faultTrouble draft.url fault)
  | call {draft : Draft} {fault : Fault} (hcalls : Calls s d options limiter now draft)
      (h : (call s d draft.url draft.params).outcome = .error fault) :
      ExecuteRaises (faultTrouble draft.url fault)
  | status {draft : Draft} {r : Response} {f : Failure}
      (hr : Responds s d options limiter now draft r) (h : statusFailure? r = some f) :
      ExecuteRaises (.failure f)

end Execute

variable {s : Surroundings} {d : Definition} {options : SearchOptions} {limiter : Limiter Float}
  {now : Float} {journal : Journal} {draft : Draft}

/-- A search whose turn has come sends what it has built. -/
theorem execute_of_turnComes (h : TurnComes s d options limiter now draft) (journal : Journal) :
    execute s d options limiter now journal =
      send s d draft (awaitTurn s d limiter now)
        (journal.writeAll (visitEntries d (awaitTurn s d limiter now))) := by
  unfold execute
  simp only [h.built, h.turn]

theorem send_of_calls {entry : Entry} (h : paramsEntry draft.params = .ok entry)
    (visit : Limiter.Visit Float) (journal : Journal) :
    (send s d draft visit journal).exchange = some (call s d draft.url draft.params) ∧
      (send s d draft visit journal).outcome? = some (
        match (call s d draft.url draft.params).outcome with
        | .error fault => .error (faultTrouble draft.url fault)
        | .ok r => (checked r).outcome) := by
  unfold send
  simp only [h]
  split <;> simp_all

/-- What comes of a search that has called the transport. -/
theorem execute_of_calls (h : Calls s d options limiter now draft) (journal : Journal) :
    (execute s d options limiter now journal).exchange =
        some (call s d draft.url draft.params) ∧
      (execute s d options limiter now journal).outcome? = some (
        match (call s d draft.url draft.params).outcome with
        | .error fault => .error (faultTrouble draft.url fault)
        | .ok r => (checked r).outcome) := by
  obtain ⟨entry, hentry⟩ := h.worded
  rw [execute_of_turnComes h.toTurnComes]
  exact send_of_calls hentry _ _

theorem execute_of_build_error {t : Trouble} (h : build d options = .error t) (journal : Journal) :
    execute s d options limiter now journal =
      { outcome? := some (.error t), journal := journal
        visit := ⟨.granted, limiter, now, [], false⟩ } := by
  unfold execute
  simp only [h]

/-- While a search waits for its turn it has come to nothing. -/
theorem execute_of_waiting (hbuilt : build d options = .ok draft)
    (h : turn? d.id (awaitTurn s d limiter now).answer = none) (journal : Journal) :
    execute s d options limiter now journal =
      { outcome? := none
        journal := journal.writeAll (visitEntries d (awaitTurn s d limiter now))
        visit := awaitTurn s d limiter now } := by
  unfold execute
  simp only [hbuilt, h]

/-- A search whose turn does not come sends nothing. -/
theorem execute_of_turn_error {t : Trouble} (hbuilt : build d options = .ok draft)
    (h : turn? d.id (awaitTurn s d limiter now).answer = some (.error t)) (journal : Journal) :
    execute s d options limiter now journal =
      { outcome? := some (.error t)
        journal := journal.writeAll (visitEntries d (awaitTurn s d limiter now))
        visit := awaitTurn s d limiter now } := by
  unfold execute
  simp only [hbuilt, h]

/-- Parameters that cannot be put in words are not sent, though the turn has come. -/
theorem execute_of_params_error {b : Breakdown} (hturn : TurnComes s d options limiter now draft)
    (h : paramsEntry draft.params = .error b) (journal : Journal) :
    execute s d options limiter now journal =
      { outcome? := some (.error (.breakdown b))
        journal := (journal.writeAll (visitEntries d (awaitTurn s d limiter now))).write
          (callEntry draft.url draft.params)
        visit := awaitTurn s d limiter now } := by
  rw [execute_of_turnComes hturn]
  unfold send
  simp only [h]

/-- What is raised at a step ends the execution. -/
theorem execute_of_raises {t : Trouble} (h : ExecuteRaises s d options limiter now t)
    (journal : Journal) : (execute s d options limiter now journal).outcome? = some (.error t) := by
  cases h with
  | build h => rw [execute_of_build_error h]
  | turn hbuilt h => rw [execute_of_turn_error hbuilt h]
  | params hturn h => rw [execute_of_params_error hturn h]
  | transport hcalls hsent h =>
      rw [(execute_of_calls hcalls journal).2, call_outcome_of_fault hsent h]
  | call hcalls h => rw [(execute_of_calls hcalls journal).2, h]
  | status hr h =>
      rw [(execute_of_calls hr.toCalls journal).2, hr.response]
      simp only [outcome_checked, h, Option.elim]

/-- A response of status 200 is what the execution ends in. -/
theorem execute_of_responds {r : Response} (h : Responds s d options limiter now draft r)
    (hstatus : r.status = 200) (journal : Journal) :
    (execute s d options limiter now journal).outcome? = some (.ok r) ∧
      (execute s d options limiter now journal).exchange =
        some (call s d draft.url draft.params) := by
  have hnone : statusFailure? r = none := Failure.ofStatus?_eq_none_iff.mpr hstatus
  obtain ⟨hexchange, houtcome⟩ := execute_of_calls h.toCalls journal
  refine ⟨?_, hexchange⟩
  rw [houtcome, h.response]
  simp only [outcome_checked, hnone, Option.elim]

/-- **Executing a search ends in a response of status 200, or in what one of its steps raises**,
unless its turn does not come. -/
theorem execute_cases (s : Surroundings) (d : Definition) (options : SearchOptions)
    (limiter : Limiter Float) (now : Float) :
    (∃ draft r, Responds s d options limiter now draft r ∧ r.status = 200) ∨
      (∃ t, ExecuteRaises s d options limiter now t) ∨
      ∃ draft, build d options = .ok draft ∧ (awaitTurn s d limiter now).answer = .waiting := by
  -- The cases follow the stages of an execution; each one that fails is a way to raise.
  cases hbuild : build d options with
  | error t => exact .inr (.inl ⟨t, .build hbuild⟩)
  | ok draft =>
      cases hturn : turn? d.id (awaitTurn s d limiter now).answer with
      | none => exact .inr (.inr ⟨draft, rfl, turn?_eq_none_iff.mp hturn⟩)
      | some turn =>
          cases turn with
          | error t => exact .inr (.inl ⟨t, .turn hbuild hturn⟩)
          | ok _ =>
              have hcomes : TurnComes s d options limiter now draft := ⟨hbuild, hturn⟩
              cases hparams : paramsEntry draft.params with
              | error b => exact .inr (.inl ⟨_, .params hcomes hparams⟩)
              | ok entry =>
                  have hcalls : Calls s d options limiter now draft := ⟨hcomes, entry, hparams⟩
                  cases hcall : (call s d draft.url draft.params).outcome with
                  | error fault => exact .inr (.inl ⟨_, .call hcalls hcall⟩)
                  | ok r =>
                      have hr : Responds s d options limiter now draft r := ⟨hcalls, hcall⟩
                      cases hstatus : statusFailure? r with
                      | some f => exact .inr (.inl ⟨_, .status hr hstatus⟩)
                      | none =>
                          exact .inl ⟨draft, r, hr, Failure.ofStatus?_eq_none_iff.mp hstatus⟩

/-- A search stands still exactly while it waits for its turn. -/
theorem execute_eq_none_iff (journal : Journal) :
    (execute s d options limiter now journal).outcome? = none ↔
      ∃ draft, build d options = .ok draft ∧ (awaitTurn s d limiter now).answer = .waiting := by
  constructor
  · intro h
    rcases execute_cases s d options limiter now with ⟨draft, r, hr, hstatus⟩ | ⟨t, ht⟩ | hwaits
    · cases h.symm.trans (execute_of_responds hr hstatus journal).1
    · cases h.symm.trans (execute_of_raises ht journal)
    · exact hwaits
  · rintro ⟨draft, hbuild, hwaiting⟩
    rw [execute_of_waiting hbuild (turn?_eq_none_iff.mpr hwaiting)]

/-- Sending only adds to the journal. -/
theorem extends_send (s : Surroundings) (d : Definition) (draft : Draft)
    (visit : Limiter.Visit Float) (journal : Journal) :
    journal.Extends (send s d draft visit journal).journal := by
  have hcalled := Journal.extends_write journal (callEntry draft.url draft.params)
  unfold send
  split
  · exact hcalled
  · next entry _ =>
    have hworded := hcalled.trans (Journal.extends_write _ entry)
    dsimp only
    split
    · exact hworded
    · exact hworded.trans (Journal.extends_writeAll _ _)

/-- Executing a search only adds to the journal. -/
theorem extends_execute (s : Surroundings) (d : Definition) (options : SearchOptions)
    (limiter : Limiter Float) (now : Float) (journal : Journal) :
    journal.Extends (execute s d options limiter now journal).journal := by
  unfold execute
  split
  · exact .refl journal
  · have hwaited := Journal.extends_writeAll journal
      (visitEntries d (awaitTurn s d limiter now))
    dsimp only
    split
    · exact hwaited
    · exact hwaited
    · exact hwaited.trans (extends_send ..)

end Search

end ReleaseSearch
