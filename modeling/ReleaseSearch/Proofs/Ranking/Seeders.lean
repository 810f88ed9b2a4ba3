import ReleaseSearch.Proofs.Ranking.Order
import ReleaseSearch.Proofs.Ranking.Score

/-!
# More seeders

The number of seeders counts twice in a ranking, as a part of the score and between releases of the
same score.  The main statement is that both work the same way: a release that gains seeders does
not lose in score and does not fall back, and nothing changes among the others.

The place of a release in a ranking is the number of those that stand before it (`index_eq`), so
that two rankings are compared through what stands before one release in each.
-/

namespace ReleaseSearch

/-- A release with another number of seeders. -/
def Release.withSeeders (r : Release) (n : Nat) : Release := { r with seeders := n }

namespace Ranking

open Decimal

/-! ## Places in a ranking -/

theorem Ranked.Precedes.not_mayPrecede {x y : Ranked} (h : x.Precedes y) :
    ¬ y.mayPrecede x = true := by
  rw [Ranked.mayPrecede_iff]
  rcases h with hlt | ⟨heq, hpos⟩
  · exact fun h => h.elim (fun h' => lt_asymm h' hlt) (fun h' => hlt.ne h'.1)
  · exact fun h => h.elim (fun h' => h'.ne heq) (fun h' => Nat.not_le.mpr hpos h'.2)

section Places

variable {α : Type} [Scale α] {p : Profile α} {rs : List Release} {out : List Ranked}

/-- A ranking has one release at a position. -/
theorem IsRanking.eq_of_position (h : IsRanking p rs out) {x y : Ranked} (hx : x ∈ out)
    (hy : y ∈ out) (hposition : x.position = y.position) : x = y := by
  obtain ⟨hrelease, hscore⟩ := (h.mem_iff x).mp hx
  obtain ⟨hrelease', hscore'⟩ := (h.mem_iff y).mp hy
  rw [hposition, hrelease', Option.some.injEq] at hrelease
  rw [← hrelease, hscore', Except.ok.injEq, Verdict.accepted.injEq] at hscore
  cases x
  cases y
  simp_all

/-- The place of a release is the number of others that may stand before it. -/
theorem IsRanking.index_eq (h : IsRanking p rs out) {k : Nat} {x : Ranked}
    (hx : out[k]? = some x) :
    (out.filter (·.position ≠ x.position)).countP (·.mayPrecede x) = k := by
  obtain ⟨hk, hx'⟩ := List.getElem?_eq_some_iff.mp hx
  have hsplit : out = out.take k ++ x :: out.drop (k + 1) := by
    rw [← hx', ← List.drop_eq_getElem_cons hk, List.take_append_drop]
  have hsorted := h.sorted
  rw [hsplit, List.pairwise_append, List.pairwise_cons] at hsorted
  obtain ⟨_, ⟨hafter, _⟩, hbefore⟩ := hsorted
  -- All that stands before it may precede it, and nothing after it may.
  have hfirst : ∀ y ∈ out.take k, (y.mayPrecede x && decide (y.position ≠ x.position)) = true := by
    intro y hy
    have hprecedes := hbefore y hy x List.mem_cons_self
    have hne : y.position ≠ x.position := by
      intro heq
      rw [h.eq_of_position (List.mem_of_mem_take hy) (List.mem_of_getElem? hx) heq] at hprecedes
      exact hprecedes.not_mayPrecede hprecedes.mayPrecede
    rw [Bool.and_eq_true, decide_eq_true_iff]
    exact ⟨hprecedes.mayPrecede, hne⟩
  have hlast : ∀ y ∈ out.drop (k + 1),
      ¬ (y.mayPrecede x && decide (y.position ≠ x.position)) = true := by
    intro y hy hboth
    exact (hafter y hy).not_mayPrecede (Bool.and_eq_true _ _ ▸ hboth).1
  rw [List.countP_filter, hsplit, List.countP_append, List.countP_cons,
    List.countP_eq_length.mpr hfirst, List.countP_eq_zero.mpr hlast, List.length_take]
  simp [Nat.le_of_lt hk]

end Places

/-! ## Gaining seeders -/

section Gain

variable {p : Profile Rat} {rs : List Release}

/-- A profile with finite bounds can judge every release. -/
theorem canJudge (hsound : p.rules.AreSound) (rs : List Release) : CanJudge p rs := by
  intro r _
  obtain ⟨quality, size, hquality, hsize, hqualityIn, hsizeIn, _⟩ := exists_parts hsound r
  unfold judge
  cases rejection? r p with
  | some reason => exact ⟨_, rfl⟩
  | none =>
      rw [score_eq hquality hsize hqualityIn.1 hsizeIn.1]
      exact ⟨_, rfl⟩

/-- More seeders are never worse. -/
theorem seederScore_mono {r r' : Release} (h : r.seeders ≤ r'.seeders) :
    seederScore r ≤ seederScore r' := by
  unfold seederScore
  repeat' split
  all_goals omega

/-- An accepted release is accepted with more seeders as well, and with no lower score. -/
theorem exists_judge_withSeeders (hsound : p.rules.AreSound) {r : Release} {s : Int} {n : Nat}
    (haccepted : judge r p = .ok (.accepted s)) (hmore : r.seeders ≤ n) :
    ∃ s', judge (r.withSeeders n) p = .ok (.accepted s') ∧ s ≤ s' := by
  obtain ⟨quality, size, hquality, hsize, hqualityIn, hsizeIn, _⟩ := exists_parts hsound r
  obtain ⟨hallowed, hfits, hscore⟩ := judge_eq_accepted_iff.mp haccepted
  rw [score_eq hquality hsize hqualityIn.1 hsizeIn.1, Except.ok.injEq] at hscore
  -- No part but that of the seeders looks at them.
  have hquality' : qualityScore (r.withSeeders n) p = .ok quality := hquality
  have hsize' : sizeScore (r.withSeeders n) p = .ok size := hsize
  have hscore' := score_eq hquality' hsize' hqualityIn.1 hsizeIn.1
  refine ⟨_, judge_eq_accepted_iff.mpr ⟨hallowed, hfits, hscore'⟩, ?_⟩
  have hmono : seederScore r ≤ seederScore (r.withSeeders n) := seederScore_mono hmore
  have hsource : sourceScore (r.withSeeders n) p = sourceScore r p := rfl
  omega

/-- The others keep their order and their scores when one release changes. -/
theorem IsRanking.others_eq {r' : Release} {i : Nat} {out out' : List Ranked}
    (h : IsRanking p rs out) (h' : IsRanking p (rs.set i r') out') :
    out'.filter (·.position ≠ i) = out.filter (·.position ≠ i) := by
  have hmem (x : Ranked) : x ∈ out'.filter (·.position ≠ i) ↔ x ∈ out.filter (·.position ≠ i) := by
    rw [List.mem_filter, List.mem_filter, h.mem_iff, h'.mem_iff, decide_eq_true_iff]
    refine and_congr_left fun hne => ?_
    rw [List.getElem?_set_ne (Ne.symm hne)]
  have hirrefl {x y : Ranked} (hxy : x.Precedes y) : x ≠ y :=
    fun heq => hxy.not_mayPrecede (heq ▸ hxy.mayPrecede)
  have hperm := (List.perm_ext_iff_of_nodup ((h'.sorted.imp hirrefl).filter _)
    ((h.sorted.imp hirrefl).filter _)).mpr hmem
  refine hperm.eq_of_pairwise (fun x y _ _ hxy hyx => ?_) (h'.sorted.filter _) (h.sorted.filter _)
  exact absurd hyx.mayPrecede hxy.not_mayPrecede

/-- A release that gains in score and seeders has no more releases before it. -/
theorem mayPrecede_of_gain {y x x' : Ranked} (h : y.mayPrecede x' = true)
    (hscore : x.score ≤ x'.score) (hseeders : x.release.seeders ≤ x'.release.seeders)
    (hposition : x'.position = x.position) : y.mayPrecede x = true := by
  refine Ranked.mayPrecede_trans y x' x h (Ranked.mayPrecede_iff.mpr ?_)
  have hle : standing x.entry ≤ standing x'.entry := by
    refine Prod.Lex.toLex_le_toLex.mpr ?_
    rcases hscore.lt_or_eq with hlt | heq
    · exact .inl hlt
    · exact .inr ⟨heq, hseeders⟩
  rcases hle.lt_or_eq with hlt | heq
  · exact .inl hlt
  · exact .inr ⟨heq.symm, hposition.le⟩

/-- **A release gains seeders**, and nothing else changes in a list of releases.

* It stays accepted, and its score does not get lower.
* It does not fall back in the ranking.
* The others keep their order and their scores. -/
theorem rank_withSeeders (hsound : p.rules.AreSound) {i : Nat} {r : Release} {s : Int} {n : Nat}
    (hplace : rs[i]? = some r) (haccepted : judge r p = .ok (.accepted s))
    (hmore : r.seeders ≤ n) :
    ∃ (s' : Int) (out out' : List Ranked),
      judge (r.withSeeders n) p = .ok (.accepted s') ∧ s ≤ s' ∧ rank rs p = .ok out ∧
      rank (rs.set i (r.withSeeders n)) p = .ok out' ∧
      (∃ k k' : Nat, out[k]? = some (.mk r s i) ∧ out'[k']? = some (.mk (r.withSeeders n) s' i) ∧
        k' ≤ k) ∧
      out'.filter (·.position ≠ i) = out.filter (·.position ≠ i) := by
  obtain ⟨s', haccepted', hscore⟩ := exists_judge_withSeeders hsound haccepted hmore
  have hranking := isRanking_ranking p rs
  have hranking' := isRanking_ranking p (rs.set i (r.withSeeders n))
  have hi : i < rs.length := (List.getElem?_eq_some_iff.mp hplace).1
  obtain ⟨k, hk⟩ := List.mem_iff_getElem?.mp
    ((hranking.mem_iff ⟨r, s, i⟩).mpr ⟨hplace, haccepted⟩)
  obtain ⟨k', hk'⟩ := List.mem_iff_getElem?.mp
    ((hranking'.mem_iff ⟨r.withSeeders n, s', i⟩).mpr ⟨List.getElem?_set_self hi, haccepted'⟩)
  refine ⟨s', _, _, haccepted', hscore, rank_eq (canJudge hsound _), rank_eq (canJudge hsound _),
    ⟨k, k', hk, hk', ?_⟩, hranking.others_eq hranking'⟩
  -- The place of a release is the number of others that may stand before it. The others are the
  -- same in both rankings, and those before the better score were before the old one too.
  calc k' = ((ranking p (rs.set i (r.withSeeders n))).filter (·.position ≠ i)).countP
          (·.mayPrecede ⟨r.withSeeders n, s', i⟩) := (hranking'.index_eq hk').symm
    _ = ((ranking p rs).filter (·.position ≠ i)).countP
          (·.mayPrecede ⟨r.withSeeders n, s', i⟩) := by rw [hranking.others_eq hranking']
    _ ≤ ((ranking p rs).filter (·.position ≠ i)).countP (·.mayPrecede ⟨r, s, i⟩) :=
          List.countP_mono_left fun _ _ h => mayPrecede_of_gain h hscore hmore rfl
    _ = k := hranking.index_eq hk

end Gain

/-! ## A release that overtakes another one -/

def plainProfile : Profile Rat where
  qualities := ["1080p"]

def seeded (seeders : Nat) : Release where
  title := "Sample"
  indexer := "sample"
  seeders := seeders
  downloadUrl := "https://example.org/sample"
  quality := some { resolution := some "1080p" }

/-- With five seeders in place of four the second release has more points than the first one, and
with four it has the same number of points and stands behind it. -/
theorem rank_withSeeders_sample :
    plainProfile.rules.AreSound ∧ (seeded 4).seeders ≤ 5 ∧
      judge (seeded 4) plainProfile = .ok (.accepted 68) ∧
      ∃ s' out out', judge ((seeded 4).withSeeders 5) plainProfile = .ok (.accepted s') ∧ 68 ≤ s' ∧
        rank [seeded 4, seeded 4] plainProfile = .ok out ∧
        rank [seeded 4, (seeded 4).withSeeders 5] plainProfile = .ok out' ∧
        (∃ k k' : Nat, out[k]? = some (.mk (seeded 4) 68 1) ∧
          out'[k']? = some (.mk ((seeded 4).withSeeders 5) s' 1) ∧ k' ≤ k) ∧
        out'.filter (·.position ≠ 1) = out.filter (·.position ≠ 1) := by
  have hsound : plainProfile.rules.AreSound := ⟨nofun, nofun⟩
  have haccepted : judge (seeded 4) plainProfile = .ok (.accepted 68) := by decide +kernel
  have hplace : [seeded 4, seeded 4][1]? = some (seeded 4) := rfl
  exact ⟨hsound, by decide, haccepted, rank_withSeeders hsound hplace haccepted (by decide)⟩

end Ranking

end ReleaseSearch
