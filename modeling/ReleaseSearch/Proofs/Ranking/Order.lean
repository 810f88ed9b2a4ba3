import Mathlib.Data.List.Sort
import Mathlib.Data.Prod.Lex
import ReleaseSearch.Ranking.Score

/-!
# The order of ranked releases

`IsRanking p rs out` says what a ranking is: it holds every place of `rs` whose release `p` accepts,
with its score, and each of them stands before those that it precedes.  The main statement is that
`rank` finds a ranking whenever every release can be judged, and what follows for its use: only
ties hang on the order of the releases, ranking a second time changes nothing, and the best release
is one that no other beats.
-/

namespace ReleaseSearch.Ranking

open Decimal

/-! ## Standings -/

/-- What a ranked release is measured by: its score, and then its seeders. -/
def standing (e : Release × Int) : Int ×ₗ Nat := toLex (e.2, e.1.seeders)

namespace Ranked

def entry (x : Ranked) : Release × Int := (x.release, x.score)

/-- Whether a ranked release has to stand before another one. -/
def Precedes (x y : Ranked) : Prop :=
  standing y.entry < standing x.entry ∨
    standing x.entry = standing y.entry ∧ x.position < y.position

theorem mayPrecede_iff {x y : Ranked} :
    x.mayPrecede y = true ↔
      standing y.entry < standing x.entry ∨
        standing x.entry = standing y.entry ∧ x.position ≤ y.position := by
  unfold mayPrecede standing entry
  rw [Prod.Lex.toLex_lt_toLex, toLex_inj, Prod.mk.injEq]
  simp only
  split
  · simp only [decide_eq_true_eq]
    omega
  · split
    · simp only [decide_eq_true_eq]
      omega
    · simp only [decide_eq_true_eq]
      omega

theorem mayPrecede_trans (x y z : Ranked) (hxy : x.mayPrecede y = true)
    (hyz : y.mayPrecede z = true) : x.mayPrecede z = true := by
  rw [mayPrecede_iff] at hxy hyz ⊢
  rcases hxy with hxy | ⟨hxy, hpos⟩
  · rcases hyz with hyz | ⟨hyz, _⟩
    · exact .inl (hyz.trans hxy)
    · exact .inl (hyz ▸ hxy)
  · rcases hyz with hyz | ⟨hyz, hpos'⟩
    · exact .inl (hxy ▸ hyz)
    · exact .inr ⟨hxy.trans hyz, hpos.trans hpos'⟩

theorem mayPrecede_total (x y : Ranked) : (x.mayPrecede y || y.mayPrecede x) = true := by
  rw [Bool.or_eq_true, mayPrecede_iff, mayPrecede_iff]
  rcases lt_trichotomy (standing x.entry) (standing y.entry) with h | h | h
  · exact .inr (.inl h)
  · rcases Nat.le_total x.position y.position with hpos | hpos
    · exact .inl (.inr ⟨h, hpos⟩)
    · exact .inr (.inr ⟨h.symm, hpos⟩)
  · exact .inl (.inl h)

/-- Of two places, one that may stand before the other has to. -/
theorem precedes_of_mayPrecede {x y : Ranked} (h : x.mayPrecede y = true)
    (hne : x.position ≠ y.position) : x.Precedes y := by
  rcases mayPrecede_iff.mp h with h | ⟨h, hpos⟩
  · exact .inl h
  · exact .inr ⟨h, Nat.lt_of_le_of_ne hpos hne⟩

theorem Precedes.mayPrecede {x y : Ranked} (h : x.Precedes y) : x.mayPrecede y = true :=
  mayPrecede_iff.mpr (h.imp_right fun h => ⟨h.1, h.2.le⟩)

theorem Precedes.standing_le {x y : Ranked} (h : x.Precedes y) :
    standing y.entry ≤ standing x.entry :=
  h.elim le_of_lt fun h => h.1.ge

end Ranked

variable {α : Type} [Scale α] {p : Profile α} {rs : List Release}

/-! ## What is accepted -/

def acceptedScore? (p : Profile α) (r : Release) : Option Int :=
  match judge r p with
  | .ok (.accepted score) => some score
  | _ => none

theorem acceptedScore?_eq_some_iff {r : Release} {score : Int} :
    acceptedScore? p r = some score ↔ judge r p = .ok (.accepted score) := by
  unfold acceptedScore?
  split
  · next score' h => simp [h]
  · next h => exact ⟨fun h' => (nomatch h'), fun h' => absurd h' (h score)⟩

def scored? (p : Profile α) (r : Release) : Option (Release × Int) :=
  (acceptedScore? p r).map fun score => (r, score)

def place? (p : Profile α) (place : Release × Nat) : Option Ranked :=
  (acceptedScore? p place.1).map fun score => ⟨place.1, score, place.2⟩

/-- The places of the accepted ones of some releases, in the order given. -/
def places (p : Profile α) (first : Nat) (rs : List Release) : List Ranked :=
  (rs.zipIdx first).filterMap (place? p)

/-- A profile can judge each of some releases. -/
def CanJudge (p : Profile α) (rs : List Release) : Prop := ∀ r ∈ rs, ∃ v, judge r p = .ok v

theorem mem_places {x : Ranked} :
    x ∈ places p 0 rs ↔
      rs[x.position]? = some x.release ∧ judge x.release p = .ok (.accepted x.score) := by
  unfold places
  rw [List.mem_filterMap, ← acceptedScore?_eq_some_iff]
  constructor
  · rintro ⟨place, hplace, hx⟩
    obtain ⟨score, hscore, rfl⟩ := Option.map_eq_some_iff.mp hx
    exact ⟨List.mem_zipIdx_iff_getElem?.mp hplace, hscore⟩
  · rintro ⟨hplace, hscore⟩
    exact ⟨(x.release, x.position), List.mem_zipIdx_iff_getElem?.mpr hplace,
      Option.map_eq_some_iff.mpr ⟨x.score, hscore, rfl⟩⟩

/-- Places come in the order of their positions. -/
theorem places_pairwise (p : Profile α) (first : Nat) (rs : List Release) :
    (places p first rs).Pairwise fun x y => x.position < y.position := by
  have hpositions : (rs.zipIdx first).Pairwise fun a b => a.2 < b.2 := by
    rw [← List.pairwise_map (f := Prod.snd), List.zipIdx_map_snd]
    exact List.pairwise_lt_range' 1
  refine hpositions.filterMap _ fun a b hab x hx y hy => ?_
  obtain ⟨_, _, rfl⟩ := Option.map_eq_some_iff.mp hx
  obtain ⟨_, _, rfl⟩ := Option.map_eq_some_iff.mp hy
  exact hab

theorem places_entries (p : Profile α) (first : Nat) (rs : List Release) :
    (places p first rs).map Ranked.entry = rs.filterMap (scored? p) := by
  have hentry : (fun place => (place? p place).map Ranked.entry) = scored? p ∘ Prod.fst := by
    funext place
    unfold place? scored?
    rw [Option.map_map]
    rfl
  unfold places
  rw [List.map_filterMap, hentry, ← List.filterMap_map, List.zipIdx_map_fst]

/-- What is accepted is found; the induction is on the releases that are left. -/
theorem acceptedFrom_eq (h : CanJudge p rs) (first : Nat) :
    acceptedFrom p first rs = .ok (places p first rs) := by
  induction rs generalizing first with
  | nil => rfl
  | cons r rs ih =>
      obtain ⟨verdict, hverdict⟩ := h r List.mem_cons_self
      have hrest := ih (fun r' hr' => h r' (List.mem_cons_of_mem _ hr')) (first + 1)
      unfold acceptedFrom places
      rw [hverdict, hrest, List.zipIdx_cons]
      -- a rejected release leaves its place empty: the ones after it keep theirs
      cases verdict with
      | accepted score =>
          have hplace : place? p (r, first) = some ⟨r, score, first⟩ := by
            unfold place?
            rw [acceptedScore?_eq_some_iff.mpr hverdict]
            rfl
          rw [List.filterMap_cons_some hplace]
          rfl
      | rejected reason =>
          have hplace : place? p (r, first) = none := by
            unfold place? acceptedScore?
            rw [hverdict]
            rfl
          rw [List.filterMap_cons_none hplace]
          rfl

/-! ## Rankings -/

/-- A ranking of some releases: every accepted one at its place, the better ones first. -/
structure IsRanking (p : Profile α) (rs : List Release) (out : List Ranked) : Prop where
  mem_iff : ∀ x, x ∈ out ↔
    rs[x.position]? = some x.release ∧ judge x.release p = .ok (.accepted x.score)
  sorted : out.Pairwise Ranked.Precedes

/-- Two rankings that differ only in the order of releases of the same standing. -/
def SameUpToTies (out out' : List Ranked) : Prop :=
  out.map (standing ·.entry) = out'.map (standing ·.entry) ∧
    ∀ s, ((out.map Ranked.entry).filter (standing · = s)).Perm
      ((out'.map Ranked.entry).filter (standing · = s))

/-- The places of the accepted releases, the better ones first. -/
def ranking (p : Profile α) (rs : List Release) : List Ranked :=
  (places p 0 rs).mergeSort Ranked.mayPrecede

theorem rank_eq (h : CanJudge p rs) : rank rs p = .ok (ranking p rs) := by
  unfold rank
  rw [acceptedFrom_eq h]
  rfl

theorem ranking_perm (p : Profile α) (rs : List Release) : (ranking p rs).Perm (places p 0 rs) :=
  List.mergeSort_perm _ _

theorem isRanking_ranking (p : Profile α) (rs : List Release) :
    IsRanking p rs (ranking p rs) where
  mem_iff x := (ranking_perm p rs).mem_iff.trans mem_places
  sorted := by
    have hsorted : (ranking p rs).Pairwise fun x y => x.mayPrecede y = true :=
      List.pairwise_mergeSort Ranked.mayPrecede_trans Ranked.mayPrecede_total _
    have hplaces : (ranking p rs).Pairwise fun x y => x.position ≠ y.position :=
      (ranking_perm p rs).symm.pairwise ((places_pairwise p 0 rs).imp Nat.ne_of_lt) Ne.symm
    exact hsorted.imp₂ (fun _ _ => Ranked.precedes_of_mayPrecede) hplaces

/-- A ranking goes down from one standing to the next. -/
theorem IsRanking.standings_pairwise {out : List Ranked} (h : IsRanking p rs out) :
    (out.map (standing ·.entry)).Pairwise fun s s' => s' ≤ s :=
  List.pairwise_map.mpr (h.sorted.imp Ranked.Precedes.standing_le)

/-- The entries of a ranking do not hang on the order of the releases. -/
theorem ranking_entries_perm {rs' : List Release} (hperm : rs'.Perm rs) :
    ((ranking p rs').map Ranked.entry).Perm ((ranking p rs).map Ranked.entry) := by
  have hentries (rs : List Release) :
      ((ranking p rs).map Ranked.entry).Perm (rs.filterMap (scored? p)) := by
    rw [← places_entries p 0]
    exact (ranking_perm p rs).map _
  exact (hentries rs').trans ((hperm.filterMap _).trans (hentries rs).symm)

/-- Only ties hang on it. -/
theorem ranking_sameUpToTies {rs' : List Release} (hperm : rs'.Perm rs) :
    SameUpToTies (ranking p rs') (ranking p rs) := by
  have hentries := ranking_entries_perm (p := p) hperm
  refine ⟨?_, fun s => hentries.filter _⟩
  refine List.Perm.eq_of_pairwise (fun _ _ _ _ h h' => le_antisymm h' h)
    (isRanking_ranking p rs').standings_pairwise (isRanking_ranking p rs).standings_pairwise ?_
  have hstandings := hentries.map standing
  rw [List.map_map, List.map_map] at hstandings
  exact hstandings

/-! ## Ranking again -/

/-- The ranked releases at the places that they have come to. -/
def renumbered (out : List Ranked) : List Ranked :=
  out.zipIdx.map fun place => { place.1 with position := place.2 }

theorem renumbered_entries (out : List Ranked) :
    (renumbered out).map Ranked.entry = out.map Ranked.entry := by
  have hentry : (Ranked.entry ∘ fun place : Ranked × Nat => { place.1 with position := place.2 }) =
      Ranked.entry ∘ Prod.fst := rfl
  unfold renumbered
  rw [List.map_map, hentry, ← List.map_map, List.zipIdx_map_fst]

/-- All releases of a ranking are accepted again. -/
theorem IsRanking.places_eq {out : List Ranked} (h : IsRanking p rs out) :
    places p 0 (out.map (·.release)) = renumbered out := by
  unfold places renumbered
  rw [List.zipIdx_map, List.filterMap_map, ← List.filterMap_eq_map]
  refine List.filterMap_congr fun place hplace => ?_
  have hmem : place.1 ∈ out := List.mem_of_getElem? (List.mem_zipIdx_iff_getElem?.mp hplace)
  have hscore : acceptedScore? p place.1.release = some place.1.score :=
    acceptedScore?_eq_some_iff.mpr ((h.mem_iff place.1).mp hmem).2
  show (acceptedScore? p place.1.release).map _ = _
  rw [hscore]
  rfl

/-- Nothing is to be sorted in the releases of a ranking. -/
theorem IsRanking.renumbered_pairwise {out : List Ranked} (h : IsRanking p rs out) :
    (renumbered out).Pairwise fun x y => x.mayPrecede y = true := by
  rw [List.pairwise_iff_getElem]
  intro i j hi hj hij
  have hi' : i < out.length := by simpa [renumbered] using hi
  have hj' : j < out.length := by simpa [renumbered] using hj
  have hle := (List.pairwise_iff_getElem.mp h.sorted i j hi' hj' hij).standing_le
  refine Ranked.mayPrecede_iff.mpr ?_
  simp only [renumbered, List.getElem_map, List.getElem_zipIdx]
  rcases hle.lt_or_eq with hlt | heq
  · exact .inl hlt
  · exact .inr ⟨heq.symm, by omega⟩

theorem IsRanking.canJudge {out : List Ranked} (h : IsRanking p rs out) :
    CanJudge p (out.map (·.release)) := by
  intro r hr
  obtain ⟨x, hx, rfl⟩ := List.mem_map.mp hr
  exact ⟨_, ((h.mem_iff x).mp hx).2⟩

/-- **Ranking the releases of a ranking again gives the same list.** -/
theorem IsRanking.rank_again {out : List Ranked} (h : IsRanking p rs out) :
    rank (out.map (·.release)) p = .ok (renumbered out) := by
  rw [rank_eq h.canJudge, ranking, h.places_eq, List.mergeSort_of_pairwise h.renumbered_pairwise]

/-! ## The best release -/

/-- An accepted release that no accepted release beats. -/
structure IsBest (p : Profile α) (rs : List Release) (x : Ranked) : Prop where
  place : rs[x.position]? = some x.release
  accepted : judge x.release p = .ok (.accepted x.score)
  unbeaten : ∀ r ∈ rs, ∀ score, judge r p = .ok (.accepted score) →
    ¬ standing x.entry < standing (r, score)

theorem best?_eq (h : CanJudge p rs) : best? rs p = .ok (ranking p rs).head? := by
  unfold best?
  rw [rank_eq h]
  rfl

/-- Every accepted release has a place in a ranking. -/
theorem IsRanking.exists_mem {out : List Ranked} (h : IsRanking p rs out) {r : Release}
    (hr : r ∈ rs) {score : Int} (hscore : judge r p = .ok (.accepted score)) :
    ∃ x ∈ out, x.entry = (r, score) := by
  obtain ⟨i, hi⟩ := List.mem_iff_getElem?.mp hr
  exact ⟨⟨r, score, i⟩, (h.mem_iff _).mpr ⟨hi, hscore⟩, rfl⟩

theorem IsRanking.head?_eq_none_iff {out : List Ranked} (h : IsRanking p rs out) :
    out.head? = none ↔ ∀ r ∈ rs, ∀ score, judge r p ≠ .ok (.accepted score) := by
  rw [List.head?_eq_none_iff]
  constructor
  · rintro rfl r hr score hscore
    obtain ⟨x, hx, _⟩ := h.exists_mem hr hscore
    cases hx
  · intro hnone
    refine List.eq_nil_iff_forall_not_mem.mpr fun x hx => ?_
    obtain ⟨hplace, hscore⟩ := (h.mem_iff x).mp hx
    exact hnone x.release (List.mem_of_getElem? hplace) x.score hscore

theorem IsRanking.isBest_of_head? {out : List Ranked} (h : IsRanking p rs out) {x : Ranked}
    (hx : out.head? = some x) : IsBest p rs x := by
  obtain ⟨rest, rfl⟩ := List.head?_eq_some_iff.mp hx
  obtain ⟨hplace, hscore⟩ := (h.mem_iff x).mp List.mem_cons_self
  refine ⟨hplace, hscore, fun r hr score hr' => not_lt.mpr ?_⟩
  obtain ⟨y, hy, hentry⟩ := h.exists_mem hr hr'
  rw [← hentry]
  rcases List.mem_cons.mp hy with rfl | hy
  · exact le_refl _
  · exact ((List.pairwise_cons.mp h.sorted).1 y hy).standing_le

/-! ## Ranking -/

/-- **What ranking finds**, if every release can be judged.

* It is a ranking: the accepted releases, each at its place and with its score, and the better ones
  first.
* Other orders of the same releases change it only among releases of the same standing.
* Ranking its releases again gives the same list.
* The best release is missing exactly if none is accepted, and no accepted release beats it. -/
theorem rank_orders (h : CanJudge p rs) :
    ∃ out, rank rs p = .ok out ∧ IsRanking p rs out ∧
      (∀ rs', rs'.Perm rs → ∃ out', rank rs' p = .ok out' ∧ SameUpToTies out' out) ∧
      (∃ again, rank (out.map (·.release)) p = .ok again ∧
        again.map Ranked.entry = out.map Ranked.entry) ∧
      ∃ best, best? rs p = .ok best ∧
        (best = none ↔ ∀ r ∈ rs, ∀ score, judge r p ≠ .ok (.accepted score)) ∧
        ∀ x, best = some x → IsBest p rs x := by
  have hranking := isRanking_ranking p rs
  refine ⟨ranking p rs, rank_eq h, hranking, ?_, ?_, ?_⟩
  · intro rs' hperm
    have h' : CanJudge p rs' := fun r hr => h r (hperm.mem_iff.mp hr)
    exact ⟨_, rank_eq h', ranking_sameUpToTies hperm⟩
  · exact ⟨_, hranking.rank_again, renumbered_entries _⟩
  · exact ⟨_, best?_eq h, hranking.head?_eq_none_iff, fun x hx => hranking.isBest_of_head? hx⟩

/-! ## A ranking -/

/-- A profile that accepts two resolutions and prefers the higher one. -/
def sampleProfile : Profile Float where
  qualities := ["720p", "1080p"]

def sampleRelease (resolution : Option String) (seeders : Nat) : Release where
  title := "Sample"
  indexer := "sample"
  seeders := seeders
  downloadUrl := "https://example.org/sample"
  quality := resolution.map fun label => { resolution := some label }

/-- Releases of which one is listed twice and one is of unknown quality. -/
def sampleReleases : List Release :=
  [sampleRelease (some "720p") 10, sampleRelease (some "1080p") 10, sampleRelease none 99,
    sampleRelease (some "1080p") 15, sampleRelease (some "1080p") 10]

/-- Four of the five releases are ranked, the one that is listed twice at both of its places. -/
theorem rank_orders_sample :
    CanJudge sampleProfile sampleReleases ∧
      ∃ out, rank sampleReleases sampleProfile = .ok out ∧
        IsRanking sampleProfile sampleReleases out ∧ out.length = 4 ∧
        ∃ x, best? sampleReleases sampleProfile = .ok (some x) ∧
          IsBest sampleProfile sampleReleases x := by
  -- The hypothesis can be evaluated, but only by its outcome.
  have hjudged : sampleReleases.all (fun r => (judge r sampleProfile).toOption.isSome) = true := by
    decide +kernel
  have hjudge : CanJudge sampleProfile sampleReleases := by
    intro r hr
    have hsome := List.all_eq_true.mp hjudged r hr
    cases hverdict : judge r sampleProfile with
    | ok v => exact ⟨v, rfl⟩
    | error b =>
        rw [hverdict] at hsome
        cases hsome
  have hlength : (ranking sampleProfile sampleReleases).length = 4 := by
    rw [(ranking_perm sampleProfile sampleReleases).length_eq]
    decide +kernel
  obtain ⟨out, hout, hranking, -, -, best, hbest, hnone, hisBest⟩ := rank_orders hjudge
  obtain rfl : out = ranking sampleProfile sampleReleases :=
    Except.ok.inj (hout.symm.trans (rank_eq hjudge))
  refine ⟨hjudge, _, hout, hranking, hlength, ?_⟩
  cases best with
  | some x => exact ⟨x, hbest, hisBest x rfl⟩
  -- with four accepted releases there is a first one
  | none =>
      have hhead := hranking.head?_eq_none_iff.mpr (hnone.mp rfl)
      rw [List.head?_eq_none_iff.mp hhead] at hlength
      cases hlength

end ReleaseSearch.Ranking
