import ReleaseSearch.Proofs.Limiter.Call

/-!
# Turns that are far enough apart

A bucket that gains one token in `d` seconds and holds no more than one keeps the requests to its
service `d` seconds apart.  What carries this from one turn to the next is that the bucket, since
any turn that was granted, has gained no more than the time since then allows:

    b.SpacedFrom d g :   g + b.tokens * d ≤ b.filledAt

At the moment of a turn the bucket is full and `filledAt` is now, so `g + d ≤ now`.  The main
statement is `history_paced`, about the calls of a new limiter.
-/

namespace ReleaseSearch.Limiter

open Decimal

/-! ## Buckets -/

namespace Bucket

/-- Since the time `g` a bucket has gained no more than one token in `d` seconds. -/
def SpacedFrom (b : Bucket Rat) (d g : Rat) : Prop := g + b.tokens * d ≤ b.filledAt

variable {b : Bucket Rat} {d g now : Rat}

theorem SpacedFrom.refill (hd : 0 < d) (hpace : b.pace = .every d) (h : b.SpacedFrom d g)
    (now : Rat) : (b.refill now).SpacedFrom d g := by
  have hle : (b.refill now).tokens ≤ b.tokens + (now - b.filledAt) * (1 / d) := by
    rw [refill_tokens, hpace]
    exact min_le_right _ _
  have hscaled : (b.refill now).tokens * d ≤ b.tokens * d + (now - b.filledAt) := by
    calc (b.refill now).tokens * d ≤ (b.tokens + (now - b.filledAt) * (1 / d)) * d :=
          mul_le_mul_of_nonneg_right hle hd.le
      _ = b.tokens * d + (now - b.filledAt) := by field_simp
  unfold SpacedFrom at h ⊢
  rw [refill_filledAt]
  linarith

/-- With a whole token the time between two turns is over. -/
theorem SpacedFrom.le (hd : 0 < d) (h : b.SpacedFrom d g) (henough : 1 ≤ b.tokens) :
    g + d ≤ b.filledAt := by
  have hle : d ≤ b.tokens * d := le_mul_of_one_le_left hd.le henough
  unfold SpacedFrom at h
  linarith

theorem SpacedFrom.take (hd : 0 < d) (h : b.SpacedFrom d g) : (b.take 1).SpacedFrom d g := by
  unfold SpacedFrom at h ⊢
  rw [take_tokens, take_filledAt, sub_mul, one_mul]
  linarith

/-- A bucket that held one token and gave it away starts again. -/
theorem spacedFrom_take (hd : 0 < d) (hle : b.tokens ≤ 1) : (b.take 1).SpacedFrom d b.filledAt := by
  have hneg : (b.tokens - 1) * d ≤ 0 :=
    mul_nonpos_of_nonpos_of_nonneg (sub_nonpos.mpr hle) hd.le
  unfold SpacedFrom
  rw [take_tokens, take_filledAt]
  linarith

theorem refill_le_one (hpace : b.pace = .every d) (now : Rat) : (b.refill now).tokens ≤ 1 := by
  have hle := b.refill_tokens_le now
  rw [hpace] at hle
  simpa [Pace.every] using hle

/-! ## Turns -/

variable {sleep : Rat → Rat → Rat} {timeout : Rat} {turn : Turn Rat}

theorem Serves.pace (h : b.Serves sleep 1 timeout now turn) : turn.bucket.pace = b.pace := by
  cases h <;> rfl

/-- A turn ends well or with the wait that would be too long. -/
theorem Serves.answers (h : b.Serves sleep 1 timeout now turn) :
    turn.answer = .granted ∨ ∃ wait, turn.answer = .exceeded wait := by
  cases h with
  | atOnce henough => exact .inl rfl
  | exceeded hshort hlong => exact .inr ⟨_, rfl⟩
  | afterSleep hshort hsoon hlater henough => exact .inl rfl

/-- A turn keeps its distance from every turn before it, and so does the bucket that it leaves. -/
theorem Serves.spaced (hd : 0 < d) (hpace : b.pace = .every d) (hg : b.SpacedFrom d g)
    (h : b.Serves sleep 1 timeout now turn) :
    turn.bucket.SpacedFrom d g ∧ (turn.answer = .granted → g + d ≤ turn.now) := by
  have hnow := hg.refill hd hpace now
  cases h with
  | atOnce henough => exact ⟨hnow.take hd, fun _ => hnow.le hd henough⟩
  | exceeded hshort hlong => exact ⟨hnow, fun h => by cases h⟩
  | @afterSleep later hshort hsoon hlater henough =>
      have hlast := SpacedFrom.refill (b := b.refill now) hd hpace hnow later
      exact ⟨hlast.take hd, fun _ => hlast.le hd henough⟩

/-- The bucket that a turn leaves keeps the distance from the turn itself. -/
theorem Serves.spaced_self (hd : 0 < d) (hpace : b.pace = .every d)
    (h : b.Serves sleep 1 timeout now turn) (hgranted : turn.answer = .granted) :
    turn.bucket.SpacedFrom d turn.now := by
  cases h with
  | atOnce henough => exact spacedFrom_take hd (refill_le_one hpace now)
  | exceeded hshort hlong => cases hgranted
  | afterSleep hshort hsoon hlater henough =>
      exact spacedFrom_take hd (refill_le_one (b := b.refill now) hpace _)

/-- A bucket that has just been filled serves at once. -/
theorem Serves.of_full (hpace : b.pace = .every d) (hfull : b.tokens = 1)
    (hfilled : b.filledAt = now) (h : b.Serves sleep 1 timeout now turn) :
    turn.answer = .granted ∧ turn.now = now ∧ turn.sleeps = [] := by
  have htokens : (b.refill now).tokens = 1 := by
    rw [refill_tokens, hpace, hfull, hfilled]
    simp [Pace.every]
  cases h with
  | atOnce henough => exact ⟨rfl, rfl, rfl⟩
  | exceeded hshort hlong => exact absurd htokens hshort.ne
  | afterSleep hshort hsoon hlater henough => exact absurd htokens hshort.ne

end Bucket

/-! ## Calls -/

/-- What the buckets of a limiter tell of the events before: a service without a bucket was not
asked for, and a bucket keeps its distance from every turn that was granted. -/
structure Recalls (delay : String → Rat) (events : List Event) (l : Limiter Rat) : Prop where
  fresh : ∀ service, l.find? service = none → ∀ e ∈ events, e.call.service ≠ service
  begun : ∀ service b, l.find? service = some b →
    ∃ e ∈ events, e.call.service = service ∧ e.visit.answer = .granted
  pace : ∀ service b, l.find? service = some b → b.pace = .every (delay service)
  spaced : ∀ service b, l.find? service = some b → ∀ e ∈ events, e.call.service = service →
    e.visit.answer = .granted → b.SpacedFrom (delay service) e.visit.now

/-- Two turns of a service are far enough apart. -/
def Apart (delay : String → Rat) (e e' : Event) : Prop :=
  e.call.service = e'.call.service → e.visit.answer = .granted → e'.visit.answer = .granted →
    e.visit.now + delay e.call.service ≤ e'.visit.now

/-- A new limiter has nothing to recall. -/
theorem recalls_new (delay : String → Rat) : Recalls delay [] {} where
  fresh service _ e he := by cases he
  begun service b hsome := by cases hsome
  pace service b hsome := by cases hsome
  spaced service b hsome := by cases hsome

section Step

variable {delay : String → Rat} {events : List Event} {l : Limiter Rat} {c : Call} {fuel : Nat}

/-- The bucket of a call has the pace of its service and keeps the distance; it is full if no turn
of the service was granted before. -/
theorem Recalls.bucket (h : Recalls delay events l) (hsame : c.delay = delay c.service) :
    (c.bucket l).pace = .every (delay c.service) ∧
      (∀ e ∈ events, e.call.service = c.service → e.visit.answer = .granted →
        (c.bucket l).SpacedFrom (delay c.service) e.visit.now) ∧
      ((∀ e ∈ events, e.call.service = c.service → e.visit.answer ≠ .granted) →
        (c.bucket l).tokens = 1 ∧ (c.bucket l).filledAt = c.start) := by
  have hpace : (c.bucket l).pace = .every (delay c.service) :=
    (c.bucket_pace l).trans (congrArg _ hsame)
  refine ⟨hpace, ?_⟩
  cases hfind : l.find? c.service with
  | none =>
      refine ⟨?_, fun _ => ?_⟩
      · intro e he hservice
        exact absurd hservice (h.fresh c.service hfind e he)
      · rw [Call.bucket_of_none hfind]
        simp [Bucket.full, Pace.every]
  | some b =>
      rw [Call.bucket_of_same hfind ((h.pace c.service b hfind).trans (congrArg _ hsame.symm))]
      refine ⟨h.spaced c.service b hfind, fun hnone => ?_⟩
      obtain ⟨e, he, hservice, hgranted⟩ := h.begun c.service b hfind
      exact absurd hgranted (hnone e he hservice)

/-- **One call**: it answers, it is far enough from every turn before it, and the first turn of a
service needs no sleep. -/
theorem Recalls.visit (h : Recalls delay events l) (hsame : c.delay = delay c.service)
    (hdelay : 0 < c.delay) (hsleep : IsSound c.sleep) (hfuel : 0 < fuel) :
    ((c.visit fuel l).answer = .granted ∨ ∃ wait, (c.visit fuel l).answer = .exceeded wait) ∧
      (∀ e ∈ events, Apart delay e ⟨c, c.visit fuel l⟩) ∧
      ((∀ e ∈ events, e.call.service = c.service → e.visit.answer ≠ .granted) →
        (c.visit fuel l).answer = .granted ∧ (c.visit fuel l).sleeps = []) := by
  obtain ⟨hpace, hspaced, hfull⟩ := h.bucket (l := l) hsame
  have hserves := Call.serves (l := l) hdelay hsleep hfuel
  have hd : 0 < delay c.service := hsame ▸ hdelay
  rw [Call.visit_eq hdelay]
  -- Of the three ways of being served, each keeps the distance from the calls before it.
  refine ⟨hserves.answers, ?_, ?_⟩
  · intro e he hservice hgranted hgranted'
    have hservice' : e.call.service = c.service := hservice
    rw [hservice']
    exact (Bucket.Serves.spaced hd hpace (hspaced e he hservice' hgranted) hserves).2 hgranted'
  · intro hnone
    obtain ⟨htokens, hfilled⟩ := hfull hnone
    obtain ⟨hgranted, _, hsleeps⟩ := Bucket.Serves.of_full hpace htokens hfilled hserves
    exact ⟨hgranted, hsleeps⟩

/-- The limiter then recalls the call as well. -/
theorem Recalls.serve (h : Recalls delay events l) (hsame : c.delay = delay c.service)
    (hdelay : 0 < c.delay) (hsleep : IsSound c.sleep) (hfuel : 0 < fuel) :
    Recalls delay (events ++ [⟨c, c.visit fuel l⟩]) (c.visit fuel l).limiter := by
  obtain ⟨hpace, hspaced, _⟩ := h.bucket (l := l) hsame
  have hserves := Call.serves (l := l) hdelay hsleep hfuel
  have hd : 0 < delay c.service := hsame ▸ hdelay
  have hfind : (c.visit fuel l).limiter.find? c.service = some (c.turn fuel l).bucket :=
    Call.visit_find? hdelay
  have hfind_of_ne {service : String} (hne : service ≠ c.service) :
      (c.visit fuel l).limiter.find? service = l.find? service := Call.visit_find?_of_ne hdelay hne
  -- Each part is shown for the service of the call, which has a new bucket, and for the others,
  -- whose buckets are the old ones.
  constructor
  case fresh =>
    intro service hnone e he
    rcases eq_or_ne service c.service with rfl | hne
    · rw [hfind] at hnone
      cases hnone
    · rw [hfind_of_ne hne] at hnone
      rcases List.mem_append.mp he with hold | hnew
      · exact h.fresh service hnone e hold
      · rw [List.mem_singleton.mp hnew]
        exact hne.symm
  case begun =>
    intro service b hsome
    rcases eq_or_ne service c.service with rfl | hne
    -- either an earlier call of the service was granted, or this one is the first that is
    · by_cases hbegun : ∃ e ∈ events, e.call.service = c.service ∧ e.visit.answer = .granted
      · obtain ⟨e, he, hservice, hgranted⟩ := hbegun
        exact ⟨e, List.mem_append_left _ he, hservice, hgranted⟩
      · have hnone : ∀ e ∈ events, e.call.service = c.service → e.visit.answer ≠ .granted :=
          fun e he hservice hgranted => hbegun ⟨e, he, hservice, hgranted⟩
        obtain ⟨_, _, hfirst⟩ := h.visit (l := l) hsame hdelay hsleep hfuel
        exact ⟨⟨c, c.visit fuel l⟩, by simp, rfl, (hfirst hnone).1⟩
    · rw [hfind_of_ne hne] at hsome
      obtain ⟨e, he, hservice, hgranted⟩ := h.begun service b hsome
      exact ⟨e, List.mem_append_left _ he, hservice, hgranted⟩
  case pace =>
    intro service b hsome
    rcases eq_or_ne service c.service with rfl | hne
    · rw [hfind] at hsome
      cases hsome
      rw [hserves.pace, hpace]
    · rw [hfind_of_ne hne] at hsome
      exact h.pace service b hsome
  case spaced =>
    intro service b hsome e he hservice hgranted
    rcases eq_or_ne service c.service with rfl | hne
    · rw [hfind] at hsome
      cases hsome
      rcases List.mem_append.mp he with hold | hnew
      -- an earlier turn: its distance from the bucket only grows
      · exact (Bucket.Serves.spaced hd hpace (hspaced e hold hservice hgranted) hserves).1
      · obtain rfl := List.mem_singleton.mp hnew
        simp only [Call.visit_eq hdelay] at hgranted ⊢
        exact Bucket.Serves.spaced_self hd hpace hserves hgranted
    · rw [hfind_of_ne hne] at hsome
      rcases List.mem_append.mp he with hold | hnew
      · exact h.spaced service b hsome e hold hservice hgranted
      · rw [List.mem_singleton.mp hnew] at hservice
        exact absurd hservice.symm hne

end Step

/-! ## Histories -/

/-- Calls that ask each service for one and the same delay, and whose sleeps are long enough. -/
def AreSound (delay : String → Rat) (calls : List Call) : Prop :=
  ∀ c ∈ calls, c.delay = delay c.service ∧ 0 < c.delay ∧ IsSound c.sleep

/-- The first turn of a service that is granted came without a sleep. -/
def BeginsAtOnce (events : List Event) : Prop :=
  ∀ before e after, events = before ++ e :: after → e.visit.answer = .granted →
    (∀ e' ∈ before, e'.call.service = e.call.service → e'.visit.answer ≠ .granted) →
      e.visit.sleeps = []

theorem BeginsAtOnce.snoc {events : List Event} {e : Event} (h : BeginsAtOnce events)
    (he : (∀ e' ∈ events, e'.call.service = e.call.service → e'.visit.answer ≠ .granted) →
      e.visit.sleeps = []) : BeginsAtOnce (events ++ [e]) := by
  intro before e' after hsplit hgranted hnone
  rcases split_snoc hsplit with ⟨rfl, rfl, rfl⟩ | ⟨rest, rfl, rfl⟩
  · exact he hnone
  · exact h before e' rest rfl hgranted hnone

/-- **A whole history**: by induction on the calls, the limiter recalls all of them. -/
theorem history_recalls {delay : String → Rat} {fuel : Nat} (hfuel : 0 < fuel) {calls : List Call}
    (hsound : AreSound delay calls) :
    Recalls delay (history fuel calls).1 (history fuel calls).2 ∧
      (∀ e ∈ (history fuel calls).1,
        e.visit.answer = .granted ∨ ∃ wait, e.visit.answer = .exceeded wait) ∧
      (history fuel calls).1.Pairwise (Apart delay) ∧ BeginsAtOnce (history fuel calls).1 := by
  -- By induction from the first call on: the limiter recalls all earlier turns, so the next call
  -- keeps its distance from each of them.
  induction calls using List.reverseRecOn with
  | nil =>
      refine ⟨recalls_new delay, ?_, List.Pairwise.nil, ?_⟩
      · intro e he
        cases he
      · intro before e after hsplit
        cases before <;> cases hsplit
  | append_singleton calls c ih =>
      obtain ⟨hsame, hdelay, hsleep⟩ := hsound c (by simp)
      obtain ⟨hrecalls, hanswers, hapart, hbegins⟩ :=
        ih fun c' hc' => hsound c' (List.mem_append_left _ hc')
      obtain ⟨hanswer, hspaced, hfirst⟩ := hrecalls.visit hsame hdelay hsleep hfuel
      rw [history_snoc]
      refine ⟨hrecalls.serve hsame hdelay hsleep hfuel, ?_, ?_, ?_⟩
      · intro e he
        rcases List.mem_append.mp he with hold | hnew
        · exact hanswers e hold
        · rw [List.mem_singleton.mp hnew]
          exact hanswer
      · refine List.pairwise_append.mpr ⟨hapart, List.pairwise_singleton _ _, ?_⟩
        intro e he e' he'
        rw [List.mem_singleton.mp he']
        exact hspaced e he
      · exact hbegins.snoc fun hnone => (hfirst hnone).2

/-- **Turns are far enough apart**, for every sequence of calls of a new limiter, at whatever times
they begin.  No call needs more than one sleep, so every positive bound on the sleeps will do.

* Every call comes to an end: its turn is granted, or the wait would exceed its timeout.
* Two turns of a service that are granted are at least its delay apart.
* The first turn of a service that is granted came without a sleep.
* What is seen of the calls for a service is what would be seen if there were no others. -/
theorem history_paced {delay : String → Rat} {fuel : Nat} (hfuel : 0 < fuel) {calls : List Call}
    (hsound : AreSound delay calls) :
    (history fuel calls).1.map (·.call) = calls ∧
      (∀ e ∈ (history fuel calls).1,
        e.visit.answer = .granted ∨ ∃ wait, e.visit.answer = .exceeded wait) ∧
      (history fuel calls).1.Pairwise (Apart delay) ∧
      BeginsAtOnce (history fuel calls).1 ∧
      (∀ service, (eventsFor service (history fuel calls).1).map Event.seen =
        (history fuel (callsFor service calls)).1.map Event.seen) := by
  obtain ⟨_, hanswers, hapart, hbegins⟩ := history_recalls hfuel hsound
  refine ⟨history_calls fuel calls, hanswers, hapart, hbegins, fun service => ?_⟩
  exact (history_filter (fun c hc => (hsound c hc).2.1) service).1

/-! ## A history -/

/-- Two seconds between the requests to one service, five for all others. -/
def sampleDelay (service : String) : Rat := if service = "a" then 2 else 5

/-- Two calls for one service, and one for another in between. -/
def sampleCalls : List Call :=
  [⟨"a", 2, 60, 0, exactly⟩, ⟨"b", 5, 60, 1 / 2, exactly⟩, ⟨"a", 2, 60, 1, exactly⟩]

/-- The second call for the service sleeps for what is left of the two seconds. -/
theorem history_paced_sample :
    AreSound sampleDelay sampleCalls ∧
      (history 1 sampleCalls).1.Pairwise (Apart sampleDelay) ∧
      (history 1 sampleCalls).1.map (fun e => (e.visit.now, e.visit.sleeps)) =
        [(0, []), (1 / 2, []), (2, [1])] := by
  have hsound : AreSound sampleDelay sampleCalls := by
    intro c hc
    simp only [sampleCalls, List.mem_cons, List.not_mem_nil, or_false] at hc
    rcases hc with rfl | rfl | rfl
    · exact ⟨by decide +kernel, by decide +kernel, exactly_isSound⟩
    · exact ⟨by decide +kernel, by decide +kernel, exactly_isSound⟩
    · exact ⟨by decide +kernel, by decide +kernel, exactly_isSound⟩
  obtain ⟨_, _, hapart, _, _⟩ := history_paced Nat.one_pos hsound
  exact ⟨hsound, hapart, by decide +kernel⟩

end ReleaseSearch.Limiter
