import ReleaseSearch.Proofs.Limiter.Endless
import ReleaseSearch.Proofs.Limiter.Token
import ReleaseSearch.Proofs.Search.Execute

/-!
# What a search touches

A search touches two things that others use as well, the limiter and the transport, and each of them
only if the steps before it have gone well.  The main statement says what every search leaves
behind, however it ends: whether the transport was called, with what, and which bucket of the
limiter lost a token.
-/

namespace ReleaseSearch.Search

open Decimal Http

/-! ## The delay of an indexer -/

/-- The bucket of an indexer with a delay when its turn is asked for. -/
def turnBucket (d : Definition) (delay : Float) (limiter : Limiter Float) (now : Float) :
    Limiter.Bucket Float := (limiter.keepPace d.id (Limiter.delayPace delay) now).bucket

/-! ## The steps -/

variable {s : Surroundings} {d : Definition} {options : SearchOptions} {limiter : Limiter Float}
  {now : Float}

/-- Nothing is asked of the limiter without a delay. -/
theorem awaitTurn_of_free (h : ∀ x, d.requestDelay = some x → x ≤ 0) :
    awaitTurn s d limiter now = ⟨.granted, limiter, now, [], false⟩ :=
  Limiter.passFor_of_free (fun x hx => atLeast_iff.mpr (h x hx)) ..

theorem turnBucket_service (d : Definition) (x : Float) (limiter : Limiter Float) (now : Float) :
    (turnBucket d x limiter now).service = d.id :=
  Limiter.service_of_find? (Limiter.keepPace_find? limiter d.id (Limiter.delayPace x) now)

theorem awaitTurn_draws {x : Float} (hdelay : d.requestDelay = some x) (hx : ¬ x ≤ 0) :
    Limiter.Visit.Draws (turnBucket d x limiter now) 1 limiter (awaitTurn s d limiter now) := by
  unfold awaitTurn
  rw [hdelay]
  exact Limiter.passFor_draws (mt atLeast_iff.mp hx) (if_neg (mt le_of_beq hx)) ..

/-- **A turn costs one token**, and if it does not come it costs none. -/
theorem awaitTurn_bucket (s : Surroundings) (limiter : Limiter Float) (now : Float) {x : Float}
    (hdelay : d.requestDelay = some x) (hx : ¬ x ≤ 0) :
    ∃ times,
      ((awaitTurn s d limiter now).answer = .granted →
        1 ≤ (((turnBucket d x limiter now).seen times).refill
          (awaitTurn s d limiter now).now).tokens ∧
        (awaitTurn s d limiter now).limiter.find? d.id =
          some ((((turnBucket d x limiter now).seen times).refill
            (awaitTurn s d limiter now).now).take 1)) ∧
      ((awaitTurn s d limiter now).answer ≠ .granted →
        (awaitTurn s d limiter now).limiter.find? d.id =
          some (((turnBucket d x limiter now).seen times).refill
            (awaitTurn s d limiter now).now)) := by
  obtain ⟨turn, hturn, hanswer, hnow, hbucket⟩ := (awaitTurn_draws (s := s) hdelay hx).turn
  obtain ⟨times, htaken, hleft⟩ := hturn.bucket_eq
  rw [turnBucket_service] at hbucket
  rw [← hanswer, ← hnow, hbucket]
  refine ⟨times, fun h => ?_, fun h => congrArg some (hleft h)⟩
  exact ⟨atLeast_iff.mp (htaken h).1, congrArg some (htaken h).2⟩

/-- No other bucket is changed, whatever the delay. -/
theorem awaitTurn_find?_of_ne {other : String} (h : other ≠ d.id) :
    (awaitTurn s d limiter now).limiter.find? other = limiter.find? other := by
  by_cases hfree : ∀ x, d.requestDelay = some x → x ≤ 0
  · rw [awaitTurn_of_free hfree]
  · push Not at hfree
    obtain ⟨x, hdelay, hx⟩ := hfree
    exact (awaitTurn_draws hdelay hx).others other (turnBucket_service d x limiter now ▸ h)

/-- A search goes on only with its token. -/
theorem turn?_eq_ok_iff :
    turn? d.id (awaitTurn s d limiter now).answer = some (.ok ()) ↔
      (awaitTurn s d limiter now).answer = .granted := by
  have hrefused : (awaitTurn s d limiter now).answer ≠ .refused :=
    Limiter.passFor_ne_refused s.sleep s.sleepLimit limiter d.id d.requestDelay
      (limitTimeout s.settings) now
  cases hanswer : (awaitTurn s d limiter now).answer with
  | refused => exact absurd hanswer hrefused
  | _ => simp [turn?]

theorem execute_visit {draft : Draft} (h : build d options = .ok draft) (journal : Journal) :
    (execute s d options limiter now journal).visit = awaitTurn s d limiter now := by
  have hsend (journal : Journal) :
      (send s d draft (awaitTurn s d limiter now) journal).visit = awaitTurn s d limiter now := by
    unfold send
    split
    · rfl
    · dsimp only
      split <;> rfl
  unfold execute
  simp only [h]
  split
  · rfl
  · rfl
  · exact hsend _

/-- **When the transport is called**: after the turn, for what was built. -/
theorem execute_exchange_iff {journal : Journal} {e : Exchange} :
    (execute s d options limiter now journal).exchange = some e ↔
      ∃ draft, Calls s d options limiter now draft ∧ e = call s d draft.url draft.params := by
  constructor
  · intro h
    -- Of all the ways in which an execution can end, only those with a call have an exchange.
    rcases execute_cases s d options limiter now with ⟨draft, r, hr, hstatus⟩ | ⟨t, ht⟩ | hwaits
    · rw [(execute_of_calls hr.toCalls journal).1] at h
      exact ⟨draft, hr.toCalls, (Option.some.inj h).symm⟩
    · cases ht with
      | build hbuild =>
          rw [execute_of_build_error hbuild] at h
          cases h
      | turn hbuilt hturn =>
          rw [execute_of_turn_error hbuilt hturn] at h
          cases h
      | params hturn hparams =>
          rw [execute_of_params_error hturn hparams] at h
          cases h
      | transport hcalls hsent hfault =>
          rw [(execute_of_calls hcalls journal).1] at h
          exact ⟨_, hcalls, (Option.some.inj h).symm⟩
      | call hcalls hfault =>
          rw [(execute_of_calls hcalls journal).1] at h
          exact ⟨_, hcalls, (Option.some.inj h).symm⟩
      | status hr hstatus =>
          rw [(execute_of_calls hr.toCalls journal).1] at h
          exact ⟨_, hr.toCalls, (Option.some.inj h).symm⟩
    · obtain ⟨draft, hbuilt, hwaiting⟩ := hwaits
      rw [execute_of_waiting hbuilt (turn?_eq_none_iff.mpr hwaiting)] at h
      cases h
  · rintro ⟨draft, hcalls, rfl⟩
    exact (execute_of_calls hcalls journal).1

/-- What says that a limit was exceeded. -/
def IsLimit (f : Failure) : Prop := ∃ service wait, f.kind = .limitExceeded service wait

/-- No status stands for a limit. -/
theorem not_isLimit_of_status {r : Response} {f : Failure} (h : statusFailure? r = some f) :
    ¬ IsLimit f := by
  rintro ⟨service, wait, hkind⟩
  unfold statusFailure? Failure.ofStatus? at h
  simp only at h
  split_ifs at h <;> cases h <;> cases hkind

/-- A fault is a limit only if the transport says so. -/
theorem fault_of_isLimit {url : String} {fault : Fault} {f : Failure}
    (h : faultTrouble url fault = .failure f) (hlimit : IsLimit f) : fault.kind = .failure f := by
  obtain ⟨service, wait, hkind⟩ := hlimit
  unfold faultTrouble at h
  simp only at h
  split at h
  · cases h
    cases hkind
  · cases h
    cases hkind
  · cases h
    cases hkind
  · next hfault =>
      cases h
      exact hfault
  · cases h

/-- After a call there is no limit but one that the transport speaks of. -/
theorem fault_of_called {journal : Journal} {e : Exchange} {f : Failure}
    (hcalled : (execute s d options limiter now journal).exchange = some e)
    (h : (execute s d options limiter now journal).outcome? = some (.error (.failure f)))
    (hlimit : IsLimit f) : ∃ fault, e.outcome = .error fault ∧ fault.kind = .failure f := by
  obtain ⟨draft, hcalls, rfl⟩ := execute_exchange_iff.mp hcalled
  rw [(execute_of_calls hcalls journal).2] at h
  cases houtcome : (call s d draft.url draft.params).outcome with
  | error fault =>
      rw [houtcome] at h
      exact ⟨fault, rfl, fault_of_isLimit (Except.error.inj (Option.some.inj h)) hlimit⟩
  | ok r =>
      simp only [houtcome, outcome_checked] at h
      cases hstatus : statusFailure? r with
      | none =>
          rw [hstatus] at h
          cases h
      | some f' =>
          rw [hstatus] at h
          cases h
          exact absurd hlimit (not_isLimit_of_status hstatus)

/-- Without a call it does not matter what the transport would have said. -/
theorem execute_of_uncalled {journal : Journal}
    (h : (execute s d options limiter now journal).exchange = none) (transport : Transport) :
    execute { s with transport := transport } d options limiter now journal =
      execute s d options limiter now journal := by
  have hawait : awaitTurn { s with transport := transport } d limiter now =
      awaitTurn s d limiter now := rfl
  cases hbuild : build d options with
  | error t => rw [execute_of_build_error hbuild, execute_of_build_error hbuild]
  | ok draft =>
      cases hturn : turn? d.id (awaitTurn s d limiter now).answer with
      | none =>
          rw [execute_of_waiting hbuild hturn, execute_of_waiting hbuild (hawait ▸ hturn), hawait]
      | some turn =>
          cases turn with
          | error t =>
              rw [execute_of_turn_error hbuild hturn,
                execute_of_turn_error hbuild (hawait ▸ hturn), hawait]
          | ok _ =>
              have hcomes : TurnComes s d options limiter now draft := ⟨hbuild, hturn⟩
              -- the words for the parameters are all that can still keep it from a call
              cases hparams : paramsEntry draft.params with
              | error b =>
                  have hcomes' : TurnComes { s with transport := transport } d options limiter now
                      draft := ⟨hbuild, hawait ▸ hturn⟩
                  rw [execute_of_params_error hcomes hparams,
                    execute_of_params_error hcomes' hparams, hawait]
              | ok entry =>
                  rw [execute_exchange_iff.mpr ⟨draft, ⟨hcomes, entry, hparams⟩, rfl⟩] at h
                  cases h

/-! ## Together -/

section Leaves

variable (s : Surroundings) (d : Definition) (options : SearchOptions) (limiter : Limiter Float)
  (now : Float) (journal : Journal)

/-- What a search leaves behind; `p` is where it stands at its end. -/
structure Leaves (p : Progress Response) : Prop where
  /-- The transport is called for what was built, and after the turn has come. -/
  called : ∀ e, p.exchange = some e → ∃ draft, build d options = .ok draft ∧
    p.visit.answer = .granted ∧ e = call s d draft.url draft.params
  /-- The turn does not depend on the transport, and without a call nothing does. -/
  uncalled : ∀ transport,
    (execute { s with transport := transport } d options limiter now journal).visit = p.visit ∧
      (p.exchange = none →
        execute { s with transport := transport } d options limiter now journal = p)
  /-- If the address or the parameters could not be built, neither the limiter nor the transport is
  touched. -/
  unbuilt : ∀ t, build d options = .error t →
    p = { outcome? := some (.error t), journal := journal
          visit := ⟨.granted, limiter, now, [], false⟩ }
  /-- A delay above zero costs one token when the turn comes, and none if it does not come.  The
  bucket had gained what some looks at it brought. -/
  paced : ∀ draft x, build d options = .ok draft → d.requestDelay = some x → 0 < x →
    ∃ times filled,
      filled = ((turnBucket d x limiter now).seen times).refill p.visit.now ∧
      filled.service = d.id ∧
      (p.visit.answer = .granted →
        1 ≤ filled.tokens ∧ p.visit.limiter.find? d.id = some (filled.take 1)) ∧
      (p.visit.answer ≠ .granted → p.visit.limiter.find? d.id = some filled)
  /-- Without a delay above zero the limiter stays as it was. -/
  free : (∀ x, d.requestDelay = some x → ¬ 0 < x) →
    p.visit = ⟨.granted, limiter, now, [], false⟩
  /-- If the turn does not come, the transport is not called. -/
  refused : p.visit.answer ≠ .granted → p.exchange = none
  /-- A limit that was exceeded means that the transport was not called, unless it is the transport
  that speaks of a limit. -/
  limited : ∀ f, p.outcome? = some (.error (.failure f)) → IsLimit f → ∀ e, p.exchange = some e →
    ∃ fault, e.outcome = .error fault ∧ fault.kind = .failure f
  /-- The buckets of other indexers stay. -/
  others : ∀ other, other ≠ d.id → p.visit.limiter.find? other = limiter.find? other

end Leaves

/-- Looks do not change whose bucket it is. -/
theorem service_seen (b : Limiter.Bucket Float) (times : List Float) :
    (b.seen times).service = b.service := by
  induction times generalizing b with
  | nil => rfl
  | cons time times ih => exact ih (b.refill time)

/-- **What a search leaves behind**, for every definition whose delay is not negative, as the schema
has it.  There is at most one call to the transport, and it is made after what it needs was built
and the turn has come.  The turn costs one token of the bucket of the indexer, and nothing else in
the limiter changes. -/
theorem execute_leaves (s : Surroundings) {d : Definition}
    (hdelay : ∀ x, d.requestDelay = some x → 0 ≤ x) (options : SearchOptions)
    (limiter : Limiter Float) (now : Float) (journal : Journal) :
    Leaves s d options limiter now journal (execute s d options limiter now journal) := by
  -- If the request cannot be built there is no visit; otherwise the visit is that of the turn.
  have hvisit : (execute s d options limiter now journal).visit =
        ⟨.granted, limiter, now, [], false⟩ ∨
      (execute s d options limiter now journal).visit = awaitTurn s d limiter now := by
    cases hbuild : build d options with
    | error t =>
        rw [execute_of_build_error hbuild]
        exact .inl rfl
    | ok draft => exact .inr (execute_visit hbuild journal)
  -- Every exchange is a call that was built and had its turn.
  have hcalled {e : Exchange} (he : (execute s d options limiter now journal).exchange = some e) :
      ∃ draft, build d options = .ok draft ∧
        (execute s d options limiter now journal).visit.answer = .granted ∧
        e = call s d draft.url draft.params := by
    obtain ⟨draft, hcalls, rfl⟩ := execute_exchange_iff.mp he
    refine ⟨draft, hcalls.built, ?_, rfl⟩
    rw [execute_visit hcalls.built]
    exact turn?_eq_ok_iff.mp hcalls.turn
  constructor
  case called => exact fun e he => hcalled he
  case uncalled =>
    intro transport
    refine ⟨?_, fun h => execute_of_uncalled h transport⟩
    cases hbuild : build d options with
    | error t => rw [execute_of_build_error hbuild, execute_of_build_error hbuild]
    | ok draft =>
        rw [execute_visit hbuild, execute_visit hbuild]
        rfl
  case unbuilt => exact fun t ht => execute_of_build_error ht journal
  case paced =>
    intro draft x hbuild hx hpos
    obtain ⟨times, hgranted, hrefused⟩ :=
      awaitTurn_bucket s limiter now hx (not_le_zero_iff.mpr (.inl hpos))
    rw [execute_visit hbuild]
    refine ⟨times, _, rfl, ?_, hgranted, hrefused⟩
    exact (service_seen _ times).trans (turnBucket_service d x limiter now)
  case free =>
    intro hfree
    rcases hvisit with h | h
    · exact h
    · rw [h, awaitTurn_of_free fun x hx => le_zero_of_not_pos (hdelay x hx) (hfree x hx)]
  case refused =>
    intro hanswer
    rw [Option.eq_none_iff_forall_ne_some]
    intro e he
    obtain ⟨draft, _, hgranted, _⟩ := hcalled he
    exact hanswer hgranted
  case limited => exact fun f houtcome hlimit e he => fault_of_called he houtcome hlimit
  case others =>
    intro other hother
    rcases hvisit with h | h
    · rw [h]
    · rw [h, awaitTurn_find?_of_ne hother]

/-! ## A search -/

/-- An indexer whose requests have to be two seconds apart. -/
def slowTracker : Definition where
  id := "slow"
  baseUrls := ["https://example.org"]
  searchPaths := [{ template := "/search" }]
  requestDelay := some 2

def silence : Surroundings where
  transport := fun _ => .fault { kind := .timeout }

/-- The first search is called at once, and takes the only token of a new bucket. -/
theorem execute_leaves_slow :
    (∀ x, slowTracker.requestDelay = some x → 0 ≤ x) ∧
      (execute silence slowTracker {} {} 0 {}).exchange.isSome = true ∧
      ∃ filled : Limiter.Bucket Float, filled.service = "slow" ∧ 1 ≤ filled.tokens ∧
        (execute silence slowTracker {} {} 0 {}).visit.limiter.find? "slow" =
          some (filled.take 1) := by
  have hdelay : ∀ x, slowTracker.requestDelay = some x → 0 ≤ x := by
    rintro x ⟨⟩
    decide +kernel
  have hleaves := execute_leaves silence hdelay {} {} 0 {}
  have hcalled : (execute silence slowTracker {} {} 0 {}).exchange.isSome = true := by
    decide +kernel
  obtain ⟨e, he⟩ := Option.isSome_iff_exists.mp hcalled
  obtain ⟨draft, hbuild, hanswer, _⟩ := hleaves.called e he
  obtain ⟨_, filled, _, hservice, hgranted, _⟩ :=
    hleaves.paced draft 2 hbuild rfl (by decide +kernel)
  exact ⟨hdelay, hcalled, filled, hservice, hgranted hanswer⟩

end ReleaseSearch.Search
