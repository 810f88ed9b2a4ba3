import ReleaseSearch.Limiter.Registry
import ReleaseSearch.Proofs.Limiter.Bucket

/-!
# Asking a limiter

A visit for one service works on the bucket of that service and on nothing else.  What comes of it
depends on the limiter only through that bucket, and of the bucket not on its number, which only
tells it apart from others.  All but the last part holds over every scale; paces are compared over
exact fractions.
-/

namespace ReleaseSearch

open Decimal Limiter

variable {α : Type}

namespace Limiter

/-! ## Finding and putting -/

section Find

variable {l : Limiter α} {b : Bucket α} {service : String}

theorem service_of_find? (h : l.find? service = some b) : b.service = service := by
  simpa using List.find?_some h

theorem find?_put_self (l : Limiter α) (b : Bucket α) :
    (l.put b).find? b.service = some b := by
  unfold put find?
  by_cases hany : l.buckets.any (·.service == b.service) = true
  · rw [if_pos hany]
    generalize l.buckets = buckets at hany
    induction buckets with
    | nil => cases hany
    | cons old rest ih =>
        rw [List.map_cons]
        by_cases hold : old.service = b.service
        · simp [hold]
        · rw [List.find?_cons_of_neg (by simp [hold])]
          exact ih (by simpa [hold] using hany)
  · rw [if_neg hany, List.find?_append]
    have hnone : l.buckets.find? (·.service == b.service) = none := by simpa using hany
    rw [hnone]
    simp

theorem find?_put_of_ne (l : Limiter α) (h : service ≠ b.service) :
    (l.put b).find? service = l.find? service := by
  have hother : (b.service == service) = false := beq_eq_false_iff_ne.mpr h.symm
  unfold put find?
  by_cases hany : l.buckets.any (·.service == b.service) = true
  · rw [if_pos hany]
    clear hany
    show (l.buckets.map _).find? _ = _
    generalize l.buckets = buckets
    induction buckets with
    | nil => rfl
    | cons old rest ih =>
        rw [List.map_cons, List.find?_cons, List.find?_cons, ih]
        -- Only buckets of the other service are replaced, and by one of that service.
        by_cases hold : old.service = b.service
        · simp [hold, hother]
        · simp [hold]
  · rw [if_neg hany, List.find?_append]
    simp [hother]

end Find

end Limiter

variable [Scale α]

/-! ## What a turn keeps -/

namespace Limiter

def Bucket.renumber (k : Nat) (b : Bucket α) : Bucket α := { b with number := k }

/-- A turn of a bucket under another number. -/
def Turn.renumber (k : Nat) (t : Turn α) : Turn α := { t with bucket := t.bucket.renumber k }

end Limiter

namespace Limiter.Bucket

/-- A turn leaves the name of the service. -/
theorem acquireFrom_service (sleep : α → α → α) (n : α) (patience : Patience α) (start : α)
    (fuel : Nat) (now : α) (b : Bucket α) :
    (acquireFrom sleep n patience start fuel now b).bucket.service = b.service := by
  fun_induction acquireFrom sleep n patience start fuel now b with
  | case6 now b b' hshort timeout hpatience wait hwait hsoon fuel ih => exact hpatience ▸ ih
  | _ => rfl

/-- A turn does not depend on the number of the bucket. -/
theorem acquireFrom_renumber (sleep : α → α → α) (n : α) (patience : Patience α) (start : α)
    (fuel k : Nat) (now : α) (b : Bucket α) :
    acquireFrom sleep n patience start fuel now (b.renumber k) =
      (acquireFrom sleep n patience start fuel now b).renumber k := by
  have hrefill (b : Bucket α) (now : α) :
      (b.renumber k).refill now = (b.refill now).renumber k := rfl
  have htokens (b : Bucket α) : (b.renumber k).tokens = b.tokens := rfl
  have hwait (b : Bucket α) : (b.renumber k).wait? n = b.wait? n := rfl
  -- Nothing that a turn asks a bucket for shows its number.
  induction fuel generalizing now b with
  | zero =>
      unfold acquireFrom
      simp only [hrefill, htokens, hwait]
      repeat' split
      all_goals rfl
  | succ fuel ih =>
      unfold acquireFrom
      simp only [hrefill, htokens, hwait, ih]
      repeat' split
      all_goals rfl

end Limiter.Bucket

namespace Limiter

variable {l : Limiter α} {service : String} {pace : Pace α} {now : α}

/-! ## Keeping a pace -/

theorem renew_find? (l : Limiter α) (service : String) (pace : Pace α) (now : α) :
    (l.renew service pace now).limiter.find? service = some (.full service l.made pace now) :=
  find?_put_self l (.full service l.made pace now)

theorem renew_find?_of_ne {other : String} (h : other ≠ service) :
    (l.renew service pace now).limiter.find? other = l.find? other :=
  find?_put_of_ne (b := .full service l.made pace now) l h

/-- The bucket that is kept, or made, is the one that the limiter holds afterwards. -/
theorem keepPace_find? (l : Limiter α) (service : String) (pace : Pace α) (now : α) :
    (l.keepPace service pace now).limiter.find? service =
      some (l.keepPace service pace now).bucket := by
  unfold keepPace
  cases h : l.find? service with
  | none => exact renew_find? l service pace now
  | some b =>
      simp only
      by_cases hsame : b.pace.same pace = true
      · rw [if_pos hsame]
        exact h
      · rw [if_neg hsame]
        exact renew_find? l service pace now

theorem keepPace_find?_of_ne {other : String} (h : other ≠ service) :
    (l.keepPace service pace now).limiter.find? other = l.find? other := by
  unfold keepPace
  cases l.find? service with
  | none => exact renew_find?_of_ne h
  | some b =>
      simp only
      by_cases hsame : b.pace.same pace = true
      · rw [if_pos hsame]
      · rw [if_neg hsame]
        exact renew_find?_of_ne h

/-- A service without a bucket gets a full one. -/
theorem keepPace_of_none (h : l.find? service = none) :
    (l.keepPace service pace now).bucket = .full service l.made pace now := by
  unfold keepPace
  rw [h]
  rfl

/-- A bucket of the same pace stays. -/
theorem keepPace_of_same {b : Bucket α} (h : l.find? service = some b)
    (hsame : b.pace.same pace = true) :
    l.keepPace service pace now = ⟨b, l, false⟩ := by
  unfold keepPace
  rw [h]
  simp only
  rw [if_pos hsame]

/-- A bucket of another pace is replaced by a full one. -/
theorem keepPace_of_differs {b : Bucket α} (h : l.find? service = some b)
    (hdiffers : ¬ b.pace.same pace = true) :
    (l.keepPace service pace now).bucket = .full service l.made pace now := by
  unfold keepPace
  rw [h]
  simp only
  rw [if_neg hdiffers]
  rfl

/-- A bucket is kept at the pace that it has, or made. -/
theorem keepPace_cases (l : Limiter α) (service : String) (pace : Pace α) (now : α) :
    (∃ b, l.find? service = some b ∧ b.pace.same pace = true ∧
        (l.keepPace service pace now).bucket = b) ∨
      ((∀ b, l.find? service = some b → ¬ b.pace.same pace = true) ∧
        (l.keepPace service pace now).bucket = .full service l.made pace now) := by
  cases h : l.find? service with
  | none => exact .inr ⟨nofun, keepPace_of_none h⟩
  | some b =>
      by_cases hsame : b.pace.same pace = true
      · exact .inl ⟨b, rfl, hsame, by rw [keepPace_of_same h hsame]⟩
      · refine .inr ⟨?_, keepPace_of_differs h hsame⟩
        rintro b ⟨⟩
        exact hsame

/-! ## Taking a turn -/

/-- Asking a limiter for tokens is asking the bucket that it holds. -/
theorem acquire_of_find? {b : Bucket α} (h : l.find? service = some b) (sleep : α → α → α)
    (fuel : Nat) (n : α) (patience : Patience α) (now : α) :
    l.acquire sleep fuel service n patience now =
      ⟨(b.acquire sleep fuel n patience now).answer,
        l.put (b.acquire sleep fuel n patience now).bucket,
        (b.acquire sleep fuel n patience now).now,
        (b.acquire sleep fuel n patience now).sleeps, false⟩ := by
  unfold acquire bucket
  rw [h]

end Limiter

end ReleaseSearch
