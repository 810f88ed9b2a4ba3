import ReleaseSearch.Proofs.Limiter.Spacing

/-!
# Delays that change

Calls for one service may ask for different delays.  A bucket is kept as long as the delay stays the
same, and a call that asks for another one gets a new bucket, which is full.  So a new delay begins
with a turn at once, however short ago the last turn was: the distance is kept between turns of
equal delays, and at a change of the delay there is none.

The main statement is `historyFrom_delays`.  It rests on the bucket of a service being that of the
turn that was granted last (`KeepsLast`).
-/

namespace ReleaseSearch.Limiter

open Decimal

/-! ## The turn before -/

/-- What comes of some calls of a limiter, oldest first, and the limiter afterwards. -/
def historyFrom (fuel : Nat) (l : Limiter Rat) (calls : List Call) : List Event × Limiter Rat :=
  calls.foldl (serve fuel) ([], l)

theorem historyFrom_snoc (fuel : Nat) (l : Limiter Rat) (calls : List Call) (c : Call) :
    historyFrom fuel l (calls ++ [c]) = serve fuel (historyFrom fuel l calls) c := by
  unfold historyFrom
  rw [List.foldl_append]
  rfl

/-- An event is the last one of its service that was granted. -/
def IsLastTurn (events : List Event) (e : Event) : Prop :=
  ∃ before after, events = before ++ e :: after ∧ e.visit.answer = .granted ∧
    ∀ e' ∈ after, e'.call.service = e.call.service → e'.visit.answer ≠ .granted

/-- An event comes after another one of its service, with no turn of the service in between. -/
def Follows (events : List Event) (e e' : Event) : Prop :=
  ∃ before after, events = before ++ e' :: after ∧ e'.call.service = e.call.service ∧
    IsLastTurn before e

/-- Two turns are as far apart as the one or the other delay asks for. -/
def KeepsShorter (e e' : Event) : Prop :=
  e.visit.now + min e.call.delay e'.call.delay ≤ e'.visit.now

section Snoc

variable {events : List Event} {new e e' : Event}

theorem not_isLastTurn_nil (e : Event) : ¬ IsLastTurn [] e := by
  rintro ⟨before, after, hsplit, _⟩
  cases before <;> cases hsplit

/-- With one event more, the last turn is that event, or it is not a turn of the service. -/
theorem IsLastTurn.of_snoc (h : IsLastTurn (events ++ [new]) e) :
    (e = new ∧ new.visit.answer = .granted) ∨
      (IsLastTurn events e ∧
        (new.call.service = e.call.service → new.visit.answer ≠ .granted)) := by
  obtain ⟨before, after, hsplit, hgranted, hnone⟩ := h
  rcases split_snoc hsplit with ⟨rfl, rfl, rfl⟩ | ⟨rest, rfl, rfl⟩
  · exact .inl ⟨rfl, hgranted⟩
  · have hrest : ∀ e' ∈ rest, e'.call.service = e.call.service → e'.visit.answer ≠ .granted :=
      fun e' he' => hnone e' (List.mem_append_left _ he')
    exact .inr ⟨⟨before, rest, rfl, hgranted, hrest⟩, hnone new (by simp)⟩

theorem Follows.of_snoc (h : Follows (events ++ [new]) e e') :
    Follows events e e' ∨
      (e' = new ∧ new.call.service = e.call.service ∧ IsLastTurn events e) := by
  obtain ⟨before, after, hsplit, hservice, hlast⟩ := h
  rcases split_snoc hsplit with ⟨rfl, rfl, rfl⟩ | ⟨rest, rfl, rfl⟩
  · exact .inr ⟨rfl, hservice, hlast⟩
  · exact .inl ⟨before, rest, rfl, hservice, hlast⟩

end Snoc

/-! ## Calls -/

/-- The bucket of a service has the pace of the turn that was granted last, and keeps its distance
from it. -/
def KeepsLast (events : List Event) (l : Limiter Rat) : Prop :=
  ∀ e, IsLastTurn events e → ∃ b, l.find? e.call.service = some b ∧
    b.pace = .every e.call.delay ∧ b.SpacedFrom e.call.delay e.visit.now

section Step

variable {events : List Event} {l : Limiter Rat} {c : Call} {e : Event} {fuel : Nat}

/-- With a new bucket a call has its turn at once. -/
theorem Call.visit_of_full (hdelay : 0 < c.delay) (hsleep : IsSound c.sleep) (hfuel : 0 < fuel)
    (hfull : c.bucket l = .full c.service l.made (.every c.delay) c.start) :
    (c.visit fuel l).answer = .granted ∧ (c.visit fuel l).now = c.start ∧
      (c.visit fuel l).sleeps = [] := by
  rw [visit_eq hdelay]
  refine Bucket.Serves.of_full (bucket_pace c l) ?_ ?_ (serves hdelay hsleep hfuel)
  · rw [hfull]
    simp [Bucket.full, Pace.every]
  · rw [hfull]
    rfl

/-- **The same delay**: the bucket keeps its distance from the last turn, and so does the call. -/
theorem KeepsLast.of_same (h : KeepsLast events l) (he : IsLastTurn events e)
    (hservice : c.service = e.call.service) (hsame : c.delay = e.call.delay)
    (hdelay : 0 < c.delay) (hsleep : IsSound c.sleep) (hfuel : 0 < fuel) :
    (c.turn fuel l).bucket.SpacedFrom e.call.delay e.visit.now ∧
      ((c.turn fuel l).answer = .granted → e.visit.now + e.call.delay ≤ (c.turn fuel l).now) := by
  obtain ⟨b, hfind, hpace, hspaced⟩ := h e he
  have hbucket : c.bucket l = b :=
    Call.bucket_of_same (hservice ▸ hfind) (hpace.trans (congrArg _ hsame.symm))
  have hserves := Call.serves (l := l) hdelay hsleep hfuel
  rw [hbucket] at hserves
  exact hserves.spaced (hsame ▸ hdelay) hpace hspaced

/-- **Another delay**: the bucket is replaced, and the call has its turn at once. -/
theorem KeepsLast.of_differs (h : KeepsLast events l) (he : IsLastTurn events e)
    (hservice : c.service = e.call.service) (hdiffers : c.delay ≠ e.call.delay)
    (hdelay : 0 < c.delay) (hsleep : IsSound c.sleep) (hfuel : 0 < fuel) :
    (c.visit fuel l).answer = .granted ∧ (c.visit fuel l).now = c.start ∧
      (c.visit fuel l).sleeps = [] := by
  obtain ⟨b, hfind, hpace, _⟩ := h e he
  refine Call.visit_of_full hdelay hsleep hfuel (Call.bucket_of_differs (hservice ▸ hfind) ?_)
  rw [hpace]
  exact fun hpaces => hdiffers (Pace.every_inj.mp hpaces).symm

/-- After one call more the buckets are still those of the last turns. -/
theorem KeepsLast.serve (h : KeepsLast events l) (hdelay : 0 < c.delay) (hsleep : IsSound c.sleep)
    (hfuel : 0 < fuel) :
    KeepsLast (events ++ [⟨c, c.visit fuel l⟩]) (c.visit fuel l).limiter := by
  intro e he
  have hfind : (c.visit fuel l).limiter.find? c.service = some (c.turn fuel l).bucket :=
    Call.visit_find? hdelay
  have hserves := Call.serves (l := l) hdelay hsleep hfuel
  have hpace : (c.turn fuel l).bucket.pace = .every c.delay :=
    hserves.pace.trans (c.bucket_pace l)
  rcases he.of_snoc with ⟨rfl, hgranted⟩ | ⟨hold, hnone⟩
  · -- The call is the last turn itself, and its bucket starts again.
    simp only [Call.visit_eq hdelay] at hgranted
    refine ⟨_, hfind, hpace, ?_⟩
    simp only [Call.visit_eq hdelay]
    exact hserves.spaced_self hdelay (c.bucket_pace l) hgranted
  · rcases eq_or_ne e.call.service c.service with hservice | hne
    · -- The call was given up.  With another delay its bucket would have been a new one, and full.
      have hsame : c.delay = e.call.delay := by
        by_contra hdiffers
        exact hnone hservice.symm
          (h.of_differs hold hservice.symm hdiffers hdelay hsleep hfuel).1
      refine ⟨_, hservice ▸ hfind, hsame ▸ hpace, ?_⟩
      exact (h.of_same hold hservice.symm hsame hdelay hsleep hfuel).1
    · obtain ⟨b, hb⟩ := h e hold
      exact ⟨b, (Call.visit_find?_of_ne hdelay hne).trans hb.1, hb.2⟩

end Step

/-! ## Histories -/

/-- **A whole history** leaves the buckets of the last turns, whatever the limiter held before
it. -/
theorem historyFrom_keepsLast {fuel : Nat} (hfuel : 0 < fuel) (l : Limiter Rat)
    {calls : List Call} (hcalls : ∀ c ∈ calls, 0 < c.delay ∧ IsSound c.sleep) :
    KeepsLast (historyFrom fuel l calls).1 (historyFrom fuel l calls).2 := by
  induction calls using List.reverseRecOn with
  | nil => exact fun e he => absurd he (not_isLastTurn_nil e)
  | append_singleton calls c ih =>
      obtain ⟨hdelay, hsleep⟩ := hcalls c (by simp)
      rw [historyFrom_snoc]
      exact (ih fun c' hc' => hcalls c' (List.mem_append_left _ hc')).serve hdelay hsleep hfuel

theorem historyFrom_calls (fuel : Nat) (l : Limiter Rat) (calls : List Call) :
    (historyFrom fuel l calls).1.map (·.call) = calls := by
  induction calls using List.reverseRecOn with
  | nil => rfl
  | append_singleton calls c ih =>
      rw [historyFrom_snoc]
      unfold serve
      rw [List.map_append, ih, List.map_singleton]

/-- Every call comes to an end. -/
theorem historyFrom_answers {fuel : Nat} (hfuel : 0 < fuel) (l : Limiter Rat) {calls : List Call}
    (hcalls : ∀ c ∈ calls, 0 < c.delay ∧ IsSound c.sleep) :
    ∀ e ∈ (historyFrom fuel l calls).1,
      e.visit.answer = .granted ∨ ∃ wait, e.visit.answer = .exceeded wait := by
  induction calls using List.reverseRecOn with
  | nil =>
      intro e he
      cases he
  | append_singleton calls c ih =>
      obtain ⟨hdelay, hsleep⟩ := hcalls c (by simp)
      intro e he
      rw [historyFrom_snoc] at he
      rcases List.mem_append.mp he with hold | hnew
      · exact ih (fun c' hc' => hcalls c' (List.mem_append_left _ hc')) e hold
      · rw [List.mem_singleton.mp hnew, Call.visit_eq hdelay]
        exact (Call.serves hdelay hsleep hfuel).answers

/-- **What a delay keeps apart**, for every limiter and every sequence of calls of it, with whatever
delays, timeouts and times.

* Every call comes to an end: its turn is granted, or the wait would exceed its timeout.
* A turn that has the delay of the turn before it is that delay later.
* A call that has another delay than the turn before it is granted at once. -/
theorem historyFrom_delays {fuel : Nat} (hfuel : 0 < fuel) (l : Limiter Rat) {calls : List Call}
    (hcalls : ∀ c ∈ calls, 0 < c.delay ∧ IsSound c.sleep) :
    (historyFrom fuel l calls).1.map (·.call) = calls ∧
      (∀ e ∈ (historyFrom fuel l calls).1,
        e.visit.answer = .granted ∨ ∃ wait, e.visit.answer = .exceeded wait) ∧
      ∀ e e', Follows (historyFrom fuel l calls).1 e e' →
        (e'.call.delay = e.call.delay → e'.visit.answer = .granted → KeepsShorter e e') ∧
        (e'.call.delay ≠ e.call.delay →
          e'.visit.answer = .granted ∧ e'.visit.now = e'.call.start ∧ e'.visit.sleeps = []) := by
  refine ⟨historyFrom_calls fuel l calls, historyFrom_answers hfuel l hcalls, ?_⟩
  -- By induction from the first call on. Only the last call can follow an event that no other
  -- follows.
  induction calls using List.reverseRecOn with
  | nil =>
      rintro e e' ⟨before, after, hsplit, _⟩
      cases before <;> cases hsplit
  | append_singleton calls c ih =>
      obtain ⟨hdelay, hsleep⟩ := hcalls c (by simp)
      have hbefore : ∀ c' ∈ calls, 0 < c'.delay ∧ IsSound c'.sleep :=
        fun c' hc' => hcalls c' (List.mem_append_left _ hc')
      have hkeeps := historyFrom_keepsLast hfuel l hbefore
      intro e e' hfollow
      rw [historyFrom_snoc] at hfollow
      rcases hfollow.of_snoc with hold | ⟨rfl, hservice, hlast⟩
      · exact ih hbefore e e' hold
      -- an equal delay keeps the bucket, and another one brings a new bucket that is full
      · refine ⟨fun hsame hgranted => ?_, fun hdiffers => ?_⟩
        · have hturn := (hkeeps.of_same hlast hservice hsame hdelay hsleep hfuel).2
          unfold KeepsShorter
          rw [hsame, min_self]
          simp only [Call.visit_eq hdelay] at hgranted ⊢
          exact hturn hgranted
        · exact hkeeps.of_differs hlast hservice hdiffers hdelay hsleep hfuel

/-! ## Two histories -/

/-- The second call waits for what is left of two seconds, the third one has another delay. -/
def threeCalls : List Call :=
  [⟨"a", 2, 60, 0, exactly⟩, ⟨"a", 2, 60, 1, exactly⟩, ⟨"a", 5, 60, 3, exactly⟩]

/-- The third turn is one second after the second one. -/
theorem historyFrom_delays_three :
    (∀ c ∈ threeCalls, 0 < c.delay ∧ IsSound c.sleep) ∧
      (∀ e e', Follows (historyFrom 1 {} threeCalls).1 e e' → e'.call.delay = e.call.delay →
        e'.visit.answer = .granted → KeepsShorter e e') ∧
      (historyFrom 1 {} threeCalls).1.map (fun e => (e.visit.now, e.visit.sleeps)) =
        [(0, []), (2, [1]), (3, [])] := by
  have hcalls : ∀ c ∈ threeCalls, 0 < c.delay ∧ IsSound c.sleep := by
    intro c hc
    simp only [threeCalls, List.mem_cons, List.not_mem_nil, or_false] at hc
    rcases hc with rfl | rfl | rfl
    · exact ⟨by decide +kernel, exactly_isSound⟩
    · exact ⟨by decide +kernel, exactly_isSound⟩
    · exact ⟨by decide +kernel, exactly_isSound⟩
  obtain ⟨_, _, hfollows⟩ := historyFrom_delays Nat.one_pos {} hcalls
  exact ⟨hcalls, fun e e' hfollow => (hfollows e e' hfollow).1, by decide +kernel⟩

def shortDelay : Call := ⟨"a", 2, 60, 0, exactly⟩

/-- A call for the same service at the same time, with a delay of five seconds. -/
def longDelay : Call := ⟨"a", 5, 60, 0, exactly⟩

/-- Both have their turn at once, although the shorter delay is two seconds. -/
theorem changed_delay_not_apart :
    (∀ c ∈ [shortDelay, longDelay], 0 < c.delay ∧ IsSound c.sleep) ∧
      ∃ e e', Follows (historyFrom 1 {} [shortDelay, longDelay]).1 e e' ∧
        e.visit.answer = .granted ∧ e'.visit.answer = .granted ∧
        e.visit.now = 0 ∧ e'.visit.now = 0 ∧ ¬ KeepsShorter e e' := by
  have hshort : 0 < shortDelay.delay ∧ IsSound shortDelay.sleep :=
    ⟨by decide +kernel, exactly_isSound⟩
  have hlong : 0 < longDelay.delay ∧ IsSound longDelay.sleep :=
    ⟨by decide +kernel, exactly_isSound⟩
  let first : Event := ⟨shortDelay, shortDelay.visit 1 {}⟩
  let second : Event := ⟨longDelay, longDelay.visit 1 first.visit.limiter⟩
  have hfirst : first.visit.answer = .granted ∧ first.visit.now = 0 ∧ first.visit.sleeps = [] :=
    Call.visit_of_full hshort.1 hshort.2 Nat.one_pos (Call.bucket_of_none rfl)
  have hlast : IsLastTurn [first] first := ⟨[], [], rfl, hfirst.1, fun _ he => nomatch he⟩
  have hcalls : ∀ c ∈ [shortDelay], 0 < c.delay ∧ IsSound c.sleep := by simpa using hshort
  have hkeeps : KeepsLast [first] first.visit.limiter :=
    historyFrom_keepsLast Nat.one_pos {} hcalls
  have hdiffers : longDelay.delay ≠ first.call.delay := by decide +kernel
  -- The second call finds a bucket for another delay, and gets a new one, which is full.
  have hsecond : second.visit.answer = .granted ∧ second.visit.now = 0 ∧ second.visit.sleeps = [] :=
    hkeeps.of_differs hlast rfl hdiffers hlong.1 hlong.2 Nat.one_pos
  refine ⟨by simpa using ⟨hshort, hlong⟩, first, second, ⟨[first], [], rfl, rfl, hlast⟩,
    hfirst.1, hsecond.1, hfirst.2.1, hsecond.2.1, ?_⟩
  unfold KeepsShorter
  rw [hfirst.2.1, hsecond.2.1]
  decide +kernel

end ReleaseSearch.Limiter
