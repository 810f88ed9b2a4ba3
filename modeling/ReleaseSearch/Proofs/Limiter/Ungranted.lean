import ReleaseSearch.Proofs.Limiter.Allowance

/-!
# Calls that fail

A call that is refused, or given up, has looked at the bucket, and the bucket was filled then.
Nobody sees this later on, since gains add up: two buckets `Agree` if every look from now on finds
the same in them, and a bucket agrees with itself after a look.

The main statement is `replies_without_failed`.  It is about calls that may wait at the same time,
so a call may come in several parts.  Without the calls that failed, every part of the others has
the same turn as with them.
-/

namespace ReleaseSearch.Limiter

open Decimal

/-! ## Buckets that agree -/

namespace Bucket

/-- Every look from now on finds the same in both buckets. -/
def Agree (b b' : Bucket Rat) : Prop := ∀ now, b.filledAt ≤ now → b.refill now = b'.refill now

theorem Agree.refl (b : Bucket Rat) : b.Agree b := fun _ _ => rfl

/-- A turn depends on the bucket through its first look alone. -/
theorem acquireFrom_congr (sleep : Rat → Rat → Rat) (n : Rat) (patience : Patience Rat)
    (start : Rat) (fuel : Nat) {now : Rat} {b b' : Bucket Rat} (h : b.refill now = b'.refill now) :
    acquireFrom sleep n patience start fuel now b =
      acquireFrom sleep n patience start fuel now b' := by
  cases fuel with
  | zero =>
      unfold acquireFrom
      simp only [h]
  | succ fuel =>
      unfold acquireFrom
      simp only [h]

/-- A turn leaves the pace. -/
theorem acquireFrom_pace (sleep : Rat → Rat → Rat) (n : Rat) (patience : Patience Rat)
    (start : Rat) (fuel : Nat) (now : Rat) (b : Bucket Rat) :
    (acquireFrom sleep n patience start fuel now b).bucket.pace = b.pace := by
  fun_induction acquireFrom sleep n patience start fuel now b with
  | case6 now b refilled hshort timeout hpatience wait hwait hsoon fuel ih => exact hpatience ▸ ih
  | _ => rfl

end Bucket

/-- The clock is not turned back by a sleep. -/
def Ask.KeepsTime (a : Ask) : Prop := ∀ now wait, 0 ≤ wait → now ≤ a.sleep now wait

section Step

variable {a : Ask} {b b' : Bucket Rat}

theorem Bucket.Agree.turn_eq (h : b.Agree b') (hnow : b.filledAt ≤ a.now) :
    a.turn b' = a.turn b :=
  Bucket.acquireFrom_congr _ _ _ _ _ (h a.now hnow).symm

/-- **A turn that is not granted leaves no trace**: the bucket agrees with what it was. -/
theorem Bucket.Agree.of_ungranted (h : b.Agree b') (hrate : 0 ≤ b.pace.rate) (ha : a.KeepsTime)
    (hnow : b.filledAt ≤ a.now) (hungranted : (a.turn b).answer ≠ .granted) :
    (a.turn b).bucket.Agree b' := by
  obtain ⟨hclock, hbucket⟩ := Bucket.acquireFrom_of_ungranted ha a.tokens a.patience a.start a.fuel
    hrate hungranted
  have hbucket : (a.turn b).bucket = b.refill (a.turn b).now := hbucket
  intro later hlater
  rw [hbucket, Bucket.refill_filledAt] at hlater
  calc (a.turn b).bucket.refill later = (b.refill (a.turn b).now).refill later := by rw [hbucket]
    _ = b.refill later := Bucket.refill_refill hrate hlater
    _ = b'.refill later := h later ((hnow.trans hclock).trans hlater)

end Step

/-! ## Calls in parts -/

/-- A part of a call.  The number tells the calls apart: others may ask while a call sleeps, and
then the call has a part before and a part after them.  Each part says when the call began, so a
clock that goes on between two readings of it is one that began so much earlier. -/
structure Part where
  call : Nat
  ask : Ask

/-- A part of a call, and what came of it.  What a part that still waits is about to sleep is the
time that its bucket needs. -/
structure Reply where
  part : Part
  turn : Turn Rat

namespace Answer

/-- Whether a call ends with an answer and without tokens. -/
def isFailure : Answer Rat → Bool
  | .refused | .exceeded _ => true
  | _ => false

def isWaiting : Answer Rat → Bool
  | .waiting => true
  | _ => false

theorem isWaiting_of_isFailure {answer : Answer Rat} (h : answer.isFailure = true) :
    answer.isWaiting = false := by
  cases answer with
  | refused | exceeded => rfl
  | granted | never | waiting => cases h

end Answer

namespace Bucket

/-- What comes of the parts of some calls, oldest first. -/
def replies : Bucket Rat → List Part → List Reply
  | _, [] => []
  | b, p :: run => ⟨p, p.ask.turn b⟩ :: replies (p.ask.turn b).bucket run

def failed (b : Bucket Rat) (run : List Part) : List Nat :=
  ((b.replies run).filter (·.turn.answer.isFailure)).map (·.part.call)

/-- A call is over when it has its answer. -/
def EndsCalls (b : Bucket Rat) (run : List Part) : Prop :=
  (b.replies run).Pairwise fun r r' =>
    r.turn.answer.isWaiting = false → r'.part.call ≠ r.part.call

instance (b : Bucket Rat) (run : List Part) : Decidable (b.EndsCalls run) :=
  inferInstanceAs (Decidable (List.Pairwise _ _))

variable {b b' : Bucket Rat} {run : List Part}

/-- A call that is granted has not failed. -/
theorem EndsCalls.not_mem_failed (h : b.EndsCalls run) {r : Reply} (hr : r ∈ b.replies run)
    (hgranted : r.turn.answer = .granted) : r.part.call ∉ b.failed run := by
  intro hmem
  obtain ⟨r', hr', hcall⟩ := List.mem_map.mp hmem
  obtain ⟨hr', hfails⟩ := List.mem_filter.mp hr'
  -- Of two replies to one call the earlier one is no answer yet.
  refine List.Pairwise.forall_of_forall_of_flip
    (R := fun r r' : Reply => r.turn.answer = .granted → r'.turn.answer.isFailure = true →
      r'.part.call ≠ r.part.call) ?_ ?_ ?_ hr hr' hgranted hfails hcall
  · intro r _ hgranted hfails
    rw [hgranted] at hfails
    cases hfails
  · refine h.imp fun hover hgranted _ => hover ?_
    rw [hgranted]
    rfl
  · exact h.imp fun hover _ hfails hcall =>
      hover (Answer.isWaiting_of_isFailure hfails) hcall.symm

/-- **Leaving out parts that are not granted** changes nothing for the others.  The induction is on
the run, and the buckets of both runs agree all the time. -/
theorem replies_filter {keep : Part → Bool} (hrate : 0 ≤ b.pace.rate)
    (hsound : ∀ p ∈ run, p.ask.KeepsTime) (horder : b.InOrder (run.map (·.ask)))
    (hagree : b.Agree b')
    (hkeep : ∀ r ∈ b.replies run, r.turn.answer = .granted → keep r.part = true) :
    b'.replies (run.filter keep) = (b.replies run).filter (fun r => keep r.part) ∧
      (b.after (run.map (·.ask))).Agree (b'.after ((run.filter keep).map (·.ask))) := by
  induction run generalizing b b' with
  | nil => exact ⟨rfl, hagree⟩
  | cons part run ih =>
      obtain ⟨hpart, hrest⟩ := List.forall_mem_cons.mp hsound
      obtain ⟨hnow, horder⟩ := horder
      obtain ⟨hfirst, hkeep⟩ := List.forall_mem_cons.mp hkeep
      have hrate' : 0 ≤ (part.ask.turn b).bucket.pace.rate := by
        unfold Ask.turn
        rwa [acquireFrom_pace]
      rw [replies]
      by_cases hkept : keep part = true
      -- The part is kept. Both buckets agree, so it has the same turn, and after it they are the
      -- same.
      · have hturn : part.ask.turn b' = part.ask.turn b := hagree.turn_eq hnow
        obtain ⟨hreplies, hafter⟩ := ih hrate' hrest horder (.refl _) hkeep
        rw [List.filter_cons_of_pos hkept,
          List.filter_cons_of_pos (p := fun r : Reply => keep r.part) hkept, replies, hturn,
          hreplies]
        refine ⟨rfl, ?_⟩
        show (after (part.ask.turn b).bucket _).Agree (after (part.ask.turn b').bucket _)
        rw [hturn]
        exact hafter
      -- The part is left out, so it was not granted. Looking at a bucket changes nothing that can
      -- be seen later.
      · have hungranted : (part.ask.turn b).answer ≠ .granted := fun h => hkept (hfirst h)
        rw [List.filter_cons_of_neg hkept,
          List.filter_cons_of_neg (p := fun r : Reply => keep r.part) hkept]
        exact ih hrate' hrest horder (hagree.of_ungranted hrate hpart hnow hungranted) hkeep

/-- **Calls that fail leave no trace**, for every bucket that loses nothing as time goes on and
every run of calls whose times do not go back, whatever they ask for and however they are
interleaved.

* Without the calls that failed, all parts of the other calls have the same turns: the same answers,
  at the same times, after the same sleeps.
* The bucket that is left is as good as the one that is left with them. -/
theorem replies_without_failed (hrate : 0 ≤ b.pace.rate) (hsound : ∀ p ∈ run, p.ask.KeepsTime)
    (horder : b.InOrder (run.map (·.ask))) (hends : b.EndsCalls run) :
    b.replies (run.filter fun p => p.call ∉ b.failed run) =
        (b.replies run).filter (fun r => r.part.call ∉ b.failed run) ∧
      (b.after (run.map (·.ask))).Agree
        (b.after ((run.filter fun p => p.call ∉ b.failed run).map (·.ask))) := by
  have hkeep : ∀ r ∈ b.replies run, r.turn.answer = .granted →
      decide (r.part.call ∉ b.failed run) = true := by
    intro r hr hgranted
    rw [decide_eq_true_iff]
    exact hends.not_mem_failed hr hgranted
  exact replies_filter hrate hsound horder (.refl b) hkeep

end Bucket

/-! ## Four calls -/

/-- A call that empties the bucket, one that would not wait, one that waits for a quarter of a
second, and one that would have to wait for too long and comes in between. -/
def mixedRun : List Part :=
  [⟨1, .whole exactly 0 3 .none 0⟩, ⟨2, .whole exactly 0 2 .none (1 / 4)⟩,
    ⟨3, .whole exactly 0 1 (.upTo 1) (1 / 4)⟩, ⟨4, .whole exactly 0 3 (.upTo (1 / 2)) (3 / 8)⟩,
    ⟨3, ⟨1, .upTo 1, 1 / 4, 1 / 2, exactly, 0⟩⟩]

/-- The second and the fourth call fail, and the third one has its token in time without them
too. -/
theorem replies_without_failed_mixed :
    0 ≤ sampleBucket.pace.rate ∧ (∀ p ∈ mixedRun, p.ask.KeepsTime) ∧
      sampleBucket.InOrder (mixedRun.map (·.ask)) ∧ sampleBucket.EndsCalls mixedRun ∧
      sampleBucket.failed mixedRun = [2, 4] ∧
      sampleBucket.replies (mixedRun.filter fun p => p.call ∉ sampleBucket.failed mixedRun) =
        (sampleBucket.replies mixedRun).filter
          (fun r => r.part.call ∉ sampleBucket.failed mixedRun) ∧
      (sampleBucket.replies (mixedRun.filter fun p => p.call ∉ sampleBucket.failed mixedRun)).map
          (fun r => (r.part.call, r.turn.now, r.turn.bucket.tokens)) =
        [(1, 0, 0), (3, 1 / 4, 1 / 2), (3, 1 / 2, 0)] := by
  have hrate : 0 ≤ sampleBucket.pace.rate := by decide +kernel
  have hsound : ∀ p ∈ mixedRun, p.ask.KeepsTime := by
    intro p hp
    simp only [mixedRun, List.mem_cons, List.not_mem_nil, or_false] at hp
    rcases hp with rfl | rfl | rfl | rfl | rfl <;> exact le_exactly
  have horder : sampleBucket.InOrder (mixedRun.map (·.ask)) :=
    ⟨by decide +kernel, by decide +kernel, by decide +kernel, by decide +kernel,
      by decide +kernel, trivial⟩
  have hends : sampleBucket.EndsCalls mixedRun := by decide +kernel
  obtain ⟨hsame, _⟩ := Bucket.replies_without_failed hrate hsound horder hends
  exact ⟨hrate, hsound, horder, hends, by decide +kernel, hsame, by decide +kernel⟩

end ReleaseSearch.Limiter
