import Mathlib.Data.List.Induction
import ReleaseSearch.Proofs.Limiter.Registry

/-!
# Calls of a limiter

A `Call` asks a limiter for the turn of a service.  `history` is what comes of some calls that are
made one after another, each at its own time, of a limiter that is new.  The main statement is that
the services do not meet: what comes of the calls for one of them is what would come of them if
there were no others (`history_filter`).
-/

namespace ReleaseSearch.Limiter

open Decimal

/-- One request in `d` seconds. -/
def Pace.every (d : Rat) : Pace Rat := ⟨1 / d, 1⟩

theorem Pace.ofDelay?_of_pos {d : Rat} (hd : 0 < d) : Pace.ofDelay? d = some (.every d) := by
  have hone : (Scale.ratio 1 1 : Rat) = 1 := by simp
  unfold ofDelay? every
  rw [if_neg (by simpa using hd.ne'), hone]

theorem Pace.same_iff_eq {p p' : Pace Rat} : p.same p' = true ↔ p = p' := by
  unfold same
  rw [Bool.and_eq_true, Scale.equal_eq_true_iff, beq_iff_eq, Pace.mk.injEq]

/-- Different delays make different paces. -/
theorem Pace.every_inj {d d' : Rat} : Pace.every d = .every d' ↔ d = d' := by
  unfold every
  simp

/-! ## Calls -/

/-- Asking for the turn of a service. -/
structure Call where
  service : String
  /-- How far apart the requests to the service have to be. -/
  delay : Rat
  /-- How long the call is ready to wait. -/
  timeout : Rat
  /-- What the clock says when the call begins. -/
  start : Rat
  /-- When a sleep that begins at a time ends. -/
  sleep : Rat → Rat → Rat

def Call.visit (fuel : Nat) (c : Call) (l : Limiter Rat) : Visit Rat :=
  l.passFor c.sleep fuel c.service (some c.delay) c.timeout c.start

def Call.bucket (c : Call) (l : Limiter Rat) : Bucket Rat :=
  (l.keepPace c.service (.every c.delay) c.start).bucket

def Call.turn (fuel : Nat) (c : Call) (l : Limiter Rat) : Turn Rat :=
  (c.bucket l).acquire c.sleep fuel 1 (.upTo c.timeout) c.start

namespace Call

variable {fuel : Nat} {c : Call} {l : Limiter Rat}

theorem bucket_service (c : Call) (l : Limiter Rat) : (c.bucket l).service = c.service :=
  service_of_find? (keepPace_find? l c.service (.every c.delay) c.start)

/-- Whatever the bucket of a service was, a call works on one of its own pace. -/
theorem bucket_pace (c : Call) (l : Limiter Rat) : (c.bucket l).pace = .every c.delay := by
  unfold bucket keepPace
  cases l.find? c.service with
  | none => rfl
  | some b =>
      simp only
      by_cases hsame : b.pace.same (.every c.delay) = true
      · rw [if_pos hsame]
        exact Pace.same_iff_eq.mp hsame
      · rw [if_neg hsame]
        rfl

theorem bucket_of_none (hnone : l.find? c.service = none) :
    c.bucket l = .full c.service l.made (.every c.delay) c.start := keepPace_of_none hnone

theorem bucket_of_same {b : Bucket Rat} (hsome : l.find? c.service = some b)
    (hpace : b.pace = .every c.delay) : c.bucket l = b := by
  unfold bucket
  rw [keepPace_of_same hsome (Pace.same_iff_eq.mpr hpace)]

/-- A bucket of another pace is given up for a full one. -/
theorem bucket_of_differs {b : Bucket Rat} (hsome : l.find? c.service = some b)
    (hpace : b.pace ≠ .every c.delay) :
    c.bucket l = .full c.service l.made (.every c.delay) c.start := by
  unfold bucket
  rw [keepPace_of_differs hsome fun hsame => hpace (Pace.same_iff_eq.mp hsame)]

theorem turn_service (fuel : Nat) (c : Call) (l : Limiter Rat) :
    (c.turn fuel l).bucket.service = c.service :=
  (Bucket.acquireFrom_service _ _ _ _ _ _ _).trans (bucket_service c l)

/-- A call is a turn of its bucket. -/
theorem visit_eq (hdelay : 0 < c.delay) :
    c.visit fuel l =
      ⟨(c.turn fuel l).answer,
        (l.keepPace c.service (.every c.delay) c.start).limiter.put (c.turn fuel l).bucket,
        (c.turn fuel l).now, (c.turn fuel l).sleeps,
        (l.keepPace c.service (.every c.delay) c.start).isNew⟩ := by
  have hone : (Scale.ratio 1 1 : Rat) = 1 := by simp
  unfold visit passFor
  simp only
  rw [if_neg (by simpa using hdelay)]
  simp only [Pace.ofDelay?_of_pos hdelay, hone]
  rw [acquire_of_find? (keepPace_find? l c.service (.every c.delay) c.start)]
  rfl

/-- The turn of a call is one of those that its bucket serves. -/
theorem serves (hdelay : 0 < c.delay) (hsleep : IsSound c.sleep) (hfuel : 0 < fuel) :
    (c.bucket l).Serves c.sleep 1 c.timeout c.start (c.turn fuel l) := by
  refine Bucket.acquire_serves hsleep ?_ ?_ hfuel c.timeout c.start
  · rw [bucket_pace]
    exact one_div_pos.mpr hdelay
  · rw [bucket_pace]
    simp [Pace.every]

/-- The limiter then holds the bucket of the turn. -/
theorem visit_find? (hdelay : 0 < c.delay) :
    (c.visit fuel l).limiter.find? c.service = some (c.turn fuel l).bucket := by
  rw [visit_eq hdelay, ← turn_service fuel c l]
  exact find?_put_self _ _

/-- The buckets of other services stay as they are. -/
theorem visit_find?_of_ne (hdelay : 0 < c.delay) {other : String} (h : other ≠ c.service) :
    (c.visit fuel l).limiter.find? other = l.find? other := by
  rw [visit_eq hdelay]
  simp only
  rw [find?_put_of_ne _ (by rwa [turn_service])]
  exact keepPace_find?_of_ne h

end Call

/-! ## Histories -/

/-- A call and what came of it. -/
structure Event where
  call : Call
  visit : Visit Rat

/-- What a caller sees of an event: the answer, the clock when it comes, and the sleeps until
then. -/
def Event.seen (e : Event) : Call × Answer Rat × Rat × List Rat :=
  (e.call, e.visit.answer, e.visit.now, e.visit.sleeps)

def serve (fuel : Nat) (h : List Event × Limiter Rat) (c : Call) : List Event × Limiter Rat :=
  (h.1 ++ [⟨c, c.visit fuel h.2⟩], (c.visit fuel h.2).limiter)

/-- What comes of some calls of a new limiter, oldest first, and the limiter afterwards. -/
def history (fuel : Nat) (calls : List Call) : List Event × Limiter Rat :=
  calls.foldl (serve fuel) ([], {})

theorem history_snoc (fuel : Nat) (calls : List Call) (c : Call) :
    history fuel (calls ++ [c]) = serve fuel (history fuel calls) c := by
  unfold history
  rw [List.foldl_append]
  rfl

/-- Every call has its event. -/
theorem history_calls (fuel : Nat) (calls : List Call) :
    (history fuel calls).1.map (·.call) = calls := by
  induction calls using List.reverseRecOn with
  | nil => rfl
  | append_singleton calls c ih =>
      rw [history_snoc]
      unfold serve
      rw [List.map_append, ih, List.map_singleton]

/-- A place in a history that has one event more is the last one, or a place in what was before. -/
theorem split_snoc {events before after : List Event} {new e : Event}
    (h : events ++ [new] = before ++ e :: after) :
    (events = before ∧ new = e ∧ after = []) ∨
      ∃ rest, after = rest ++ [new] ∧ events = before ++ e :: rest := by
  rcases List.eq_nil_or_concat after with rfl | ⟨rest, last, rfl⟩
  · obtain ⟨hevents, hnew⟩ := List.append_singleton_inj.mp h
    exact .inl ⟨hevents, hnew, rfl⟩
  · rw [List.concat_eq_append, ← List.cons_append, ← List.append_assoc] at h
    obtain ⟨hevents, rfl⟩ := List.append_singleton_inj.mp h
    exact .inr ⟨rest, List.concat_eq_append, hevents⟩

/-! ## Other services -/

/-- Two limiters hold the same bucket for a service, perhaps under different numbers. -/
def AgreeOn (service : String) (l l' : Limiter Rat) : Prop :=
  (l.find? service).map (Bucket.renumber 0) = (l'.find? service).map (Bucket.renumber 0)

namespace Call

variable {fuel : Nat} {c : Call} {l l' : Limiter Rat}

/-- Up to its number, the bucket of a call depends on the bucket that its service had. -/
theorem bucket_renumber (c : Call) (l : Limiter Rat) :
    (c.bucket l).renumber 0 =
      match (l.find? c.service).map (Bucket.renumber 0) with
      | none => .full c.service 0 (.every c.delay) c.start
      | some b =>
        if b.pace.same (.every c.delay) then b else .full c.service 0 (.every c.delay) c.start := by
  unfold bucket keepPace
  cases l.find? c.service with
  | none => rfl
  | some b =>
      simp only [Option.map_some, Bucket.renumber]
      by_cases hsame : b.pace.same (.every c.delay) = true
      · rw [if_pos hsame, if_pos hsame]
      · rw [if_neg hsame, if_neg hsame]
        rfl

theorem turn_renumber (fuel : Nat) (c : Call) (l : Limiter Rat) :
    (c.turn fuel l).renumber 0 =
      ((c.bucket l).renumber 0).acquire c.sleep fuel 1 (.upTo c.timeout) c.start :=
  (Bucket.acquireFrom_renumber _ _ _ _ _ _ _ _).symm

/-- The turn of a call is the same in limiters that agree on its service. -/
theorem turn_congr (h : AgreeOn c.service l l') :
    (c.turn fuel l).renumber 0 = (c.turn fuel l').renumber 0 := by
  rw [turn_renumber, turn_renumber, bucket_renumber, bucket_renumber, h]

/-- So is what comes of the call, and the limiters agree on the service afterwards. -/
theorem visit_congr (fuel : Nat) (hdelay : 0 < c.delay) (h : AgreeOn c.service l l') :
    Event.seen ⟨c, c.visit fuel l⟩ = Event.seen ⟨c, c.visit fuel l'⟩ ∧
      AgreeOn c.service (c.visit fuel l).limiter (c.visit fuel l').limiter := by
  have hturn : (c.turn fuel l).renumber 0 = (c.turn fuel l').renumber 0 := turn_congr h
  obtain ⟨hanswer, hbucket, hnow, hsleeps⟩ := Turn.mk.inj hturn
  constructor
  · unfold Event.seen
    rw [visit_eq hdelay, visit_eq hdelay, hanswer, hnow, hsleeps]
  · unfold AgreeOn
    rw [visit_find? hdelay, visit_find? hdelay, Option.map_some, Option.map_some, hbucket]

/-- A call for another service leaves the limiter in agreement with what it was. -/
theorem visit_agreeOn {service : String} (hdelay : 0 < c.delay) (hother : service ≠ c.service)
    (h : AgreeOn service l l') : AgreeOn service (c.visit fuel l).limiter l' := by
  unfold AgreeOn
  rw [visit_find?_of_ne hdelay hother]
  exact h

end Call

def callsFor (service : String) (calls : List Call) : List Call :=
  calls.filter (·.service == service)

def eventsFor (service : String) (events : List Event) : List Event :=
  events.filter (·.call.service == service)

/-- **Services do not meet**: what comes of the calls for one of them is what would come of them if
there were no others.  The induction keeps the two limiters in agreement on the service. -/
theorem history_filter {fuel : Nat} {calls : List Call} (hdelay : ∀ c ∈ calls, 0 < c.delay)
    (service : String) :
    (eventsFor service (history fuel calls).1).map Event.seen =
        (history fuel (callsFor service calls)).1.map Event.seen ∧
      AgreeOn service (history fuel calls).2 (history fuel (callsFor service calls)).2 := by
  -- On the last call: one for the service is seen in both runs, any other changes nothing for it.
  induction calls using List.reverseRecOn with
  | nil => exact ⟨rfl, rfl⟩
  | append_singleton calls c ih =>
      obtain ⟨hseen, hagree⟩ := ih fun c' hc' => hdelay c' (List.mem_append_left _ hc')
      have hc : 0 < c.delay := hdelay c (by simp)
      rw [history_snoc]
      unfold serve eventsFor callsFor at *
      by_cases hservice : c.service = service
      · subst hservice
        obtain ⟨hsame, hagree'⟩ := Call.visit_congr fuel hc hagree
        simp only [List.filter_append, List.filter_cons, beq_self_eq_true, if_true,
          List.filter_nil, history_snoc, serve]
        refine ⟨?_, hagree'⟩
        rw [List.map_append, List.map_append, hseen, List.map_singleton, List.map_singleton, hsame]
      · have hother : (c.service == service) = false := beq_eq_false_iff_ne.mpr hservice
        simp only [List.filter_append, List.filter_cons, hother, Bool.false_eq_true, if_false,
          List.filter_nil, List.append_nil]
        exact ⟨hseen, Call.visit_agreeOn hc (Ne.symm hservice) hagree⟩

end ReleaseSearch.Limiter
