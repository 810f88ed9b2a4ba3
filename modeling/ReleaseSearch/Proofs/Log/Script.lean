import ReleaseSearch.Proofs.Log.Correlation

/-!
# Blocks within blocks

A `Script` is a program that works on the correlation: it adds values, takes all of them away,
fails, goes on after a failure, and does all this within contexts, which may be nested.  Running it
notes for every block what the correlation was when the block was entered, when its body came to its
end, and when the block was left.

A context brings back the values that it was given, and only these.  So a block leaves the
correlation as it found it if nothing in its body alters a value that its context was not given
(`blocks_restore`); a value that is added in a context that was given none stays (`added_stays`).
-/

namespace ReleaseSearch.Correlation

/-! ## Scripts -/

/-- A program that works on the correlation. -/
inductive Script where
  | done
  | add (more : List (String × Data))
  | clear
  | fail (t : Trouble)
  | andThen (first next : Script)
  /-- If the body fails, the handler goes on. -/
  | rescue (body handler : Script)
  /-- A block: the body within a context of its own that is given some values. -/
  | within (searchId indexer : Option String) (extra : List (String × Data)) (body : Script)

/-- A block that was entered and left. -/
structure Block where
  context : Context
  body : Script
  /-- The correlation when the block was entered. -/
  entered : Correlation
  /-- The correlation when the body had come to its end, well or not. -/
  last : Correlation
  /-- The correlation when the block was left. -/
  left : Correlation

/-- What comes of a script: how it ends, the correlation then, and the blocks that were left. -/
structure Course where
  ending : Except Trouble Unit
  correlation : Correlation
  blocks : List Block := []

def Course.goesOn (c next : Course) : Course := { next with blocks := c.blocks ++ next.blocks }

namespace Script

def run : Script → Correlation → Course
  | done, c => ⟨.ok (), c, []⟩
  | add more, c => ⟨.ok (), c.add more, []⟩
  | clear, c => ⟨.ok (), c.clear, []⟩
  | fail t, c => ⟨.error t, c, []⟩
  | andThen first next, c =>
    let before := first.run c
    match before.ending with
    | .ok _ => before.goesOn (next.run before.correlation)
    | .error _ => before
  | rescue body handler, c =>
    let before := body.run c
    match before.ending with
    | .ok _ => before
    | .error _ => before.goesOn (handler.run before.correlation)
  | within searchId indexer extra body, c =>
    match Context.ofValues searchId indexer extra with
    | .error b => ⟨.error (.breakdown b), c, []⟩
    | .ok context =>
      let outcome := context.within c fun inner =>
        let course := body.run inner
        (course, course.correlation)
      { ending := outcome.1.ending
        correlation := outcome.2
        blocks := outcome.1.blocks ++ [⟨context, body, c, outcome.1.correlation, outcome.2⟩] }

/-- Whether something in a script alters a part of the correlation, outside of blocks that bring it
back. -/
def alters (p : Part) : Script → Bool
  | done | fail _ => false
  | add more => p = .extra && !more.isEmpty
  | clear => true
  | andThen first next => first.alters p || next.alters p
  | rescue body handler => body.alters p || handler.alters p
  | within searchId indexer extra body =>
    body.alters p && !Context.sets { searchId, indexer, extra } p

variable {p : Part} {c : Correlation}

theorem ofValues_eq_ok {searchId indexer : Option String} {extra : List (String × Data)}
    {context : Context} (h : Context.ofValues searchId indexer extra = .ok context) :
    context = { searchId, indexer, extra } := by
  unfold Context.ofValues at h
  split at h
  · cases h
  · exact (Except.ok.inj h).symm

/-- **A part that nothing alters stays as it is**, by induction on the script: a block needs the
induction hypothesis only for the parts that its context does not bring back. -/
theorem run_sameIn (s : Script) (h : s.alters p = false) (c : Correlation) :
    SameIn p (s.run c).correlation c := by
  induction s generalizing c with
  | done => exact .refl p c
  | fail t => exact .refl p c
  | clear => cases h
  | add more =>
      cases p with
      | searchId => rfl
      | indexer => rfl
      | extra =>
          obtain rfl : more = [] := by simpa [alters] using h
          rfl
  | andThen first next ihfirst ihnext =>
      obtain ⟨hfirst, hnext⟩ := Bool.or_eq_false_iff.mp h
      cases hending : (first.run c).ending with
      | ok _ =>
          simp only [run, hending]
          exact (ihnext hnext _).trans (ihfirst hfirst c)
      | error _ =>
          simp only [run, hending]
          exact ihfirst hfirst c
  | rescue body handler ihbody ihhandler =>
      obtain ⟨hbody, hhandler⟩ := Bool.or_eq_false_iff.mp h
      cases hending : (body.run c).ending with
      | ok _ =>
          simp only [run, hending]
          exact ihbody hbody c
      | error _ =>
          simp only [run, hending]
          exact (ihhandler hhandler _).trans (ihbody hbody c)
  | within searchId indexer extra body ih =>
      -- what the context sets it brings back; the rest goes through the body unaltered
      unfold run
      cases hcontext : Context.ofValues searchId indexer extra with
      | error b => exact .refl p c
      | ok context =>
          obtain rfl := ofValues_eq_ok hcontext
          have hleave (inner : Correlation) :=
            Context.leave_sameIn (rfl : Context.former { searchId, indexer, extra } = []) p c inner
          cases hsets : Context.sets { searchId, indexer, extra } p with
          | true =>
              simp only [hsets, if_true] at hleave
              exact hleave _
          | false =>
              have hbody : body.alters p = false := by simpa [alters, hsets] using h
              simp only [hsets, Bool.false_eq_true, if_false] at hleave
              exact (hleave _).trans ((ih hbody _).trans (Context.enter_sameIn hsets c))

end Script

/-! ## Blocks -/

/-- What a block tells of itself is what happened: its context was fresh, its body was run in it,
and then it was left. -/
structure Block.IsFaithful (b : Block) : Prop where
  fresh : b.context.former = []
  last : b.last = (b.body.run (b.context.enter b.entered).2).correlation
  left : b.left = ((b.context.enter b.entered).1.leave b.last).2

/-- Every block of a run is faithful, by induction on the script. -/
theorem Script.run_isFaithful (s : Script) (c : Correlation) :
    ∀ b ∈ (s.run c).blocks, b.IsFaithful := by
  induction s generalizing c with
  | done | fail _ | clear | add _ =>
      intro b hb
      cases hb
  | andThen first next ihfirst ihnext =>
      intro b hb
      cases hending : (first.run c).ending with
      | ok _ =>
          simp only [run, hending, Course.goesOn, List.mem_append] at hb
          exact hb.elim (ihfirst c b) (ihnext _ b)
      | error _ =>
          simp only [run, hending] at hb
          exact ihfirst c b hb
  | rescue body handler ihbody ihhandler =>
      intro b hb
      cases hending : (body.run c).ending with
      | ok _ =>
          simp only [run, hending] at hb
          exact ihbody c b hb
      | error _ =>
          simp only [run, hending, Course.goesOn, List.mem_append] at hb
          exact hb.elim (ihbody c b) (ihhandler _ b)
  | within searchId indexer extra body ih =>
      intro b hb
      unfold run at hb
      cases hcontext : Context.ofValues searchId indexer extra with
      | error _ =>
          rw [hcontext] at hb
          cases hb
      | ok context =>
          obtain rfl := ofValues_eq_ok hcontext
          rw [hcontext] at hb
          -- The blocks of the body come first; the block itself is the last to be left.
          rcases List.mem_append.mp hb with hinner | hself
          · exact ih _ b hinner
          · rw [List.mem_singleton.mp hself]
            exact ⟨rfl, rfl, rfl⟩

/-- **What a block brings back.**  Take any script, run from any correlation, and any block in it,
however deep, whether its body came to its end well or failed.

* The values that its context was given are, after the block, what they were before it.
* The others are what the body has left.
* So a value is what it was before if the context was given one for it, or if nothing in the body
  alters it outside of inner blocks that bring it back; and the whole correlation is what it was
  before exactly if the body has left all values alone that the context was not given. -/
theorem blocks_restore {s : Script} {c : Correlation} {b : Block} (hb : b ∈ (s.run c).blocks) :
    (∀ p, b.context.sets p = true → SameIn p b.left b.entered) ∧
    (∀ p, b.context.sets p = false → SameIn p b.left b.last) ∧
    (∀ p, b.body.alters p = false → SameIn p b.left b.entered) ∧
    (b.left = b.entered ↔ ∀ p, b.context.sets p = false → SameIn p b.last b.entered) := by
  obtain ⟨hfresh, hlast, hleft⟩ := s.run_isFaithful c b hb
  -- Leaving sets the parts that the context was given back, and touches no other.
  have hleave (p : Part) : SameIn p b.left (if b.context.sets p then b.entered else b.last) := by
    rw [hleft]
    exact Context.leave_sameIn hfresh p b.entered b.last
  have hset (p : Part) (hsets : b.context.sets p = true) : SameIn p b.left b.entered := by
    simpa only [hsets, if_true] using hleave p
  have hunset (p : Part) (hsets : b.context.sets p = false) : SameIn p b.left b.last := by
    simpa only [hsets, Bool.false_eq_true, if_false] using hleave p
  refine ⟨hset, hunset, ?_, ?_⟩
  · intro p halters
    cases hsets : b.context.sets p with
    | true => exact hset p hsets
    | false =>
        refine (hunset p hsets).trans ?_
        -- entering leaves such a part alone, and so does the body
        rw [hlast]
        exact (b.body.run_sameIn halters _).trans (Context.enter_sameIn hsets b.entered)
  · constructor
    · intro hsame p hsets
      exact (hunset p hsets).symm.trans (SameIn.eq_iff.mp hsame p)
    · intro hsame
      refine SameIn.eq_iff.mpr fun p => ?_
      cases hsets : b.context.sets p with
      | true => exact hset p hsets
      | false => exact (hunset p hsets).trans (hsame p hsets)

/-! ## Two scripts -/

/-- A search that is given all three values, with a page in it that takes all values away and then
fails. -/
def failingScript : Script :=
  .within (some "s1") (some "n") [("query", .text "q")]
    (.rescue (.within none none [("page", .int 1)] (.andThen .clear (.fail (.breakdown .noItem))))
      .done)

/-- The page takes the id of the search away, and the search brings everything back. -/
theorem blocks_restore_failing : ∃ b ∈ (failingScript.run {}).blocks,
    b.context.searchId = some "s1" ∧ b.last.searchId = none ∧ b.left = b.entered := by
  refine ⟨_, List.mem_cons_of_mem _ List.mem_cons_self, rfl, rfl, ?_⟩
  obtain ⟨_, _, _, hsame⟩ :=
    blocks_restore (s := failingScript) (c := {}) (List.mem_cons_of_mem _ List.mem_cons_self)
  refine hsame.mpr fun p hp => ?_
  cases p <;> cases hp

/-- A context that is given the id of a search only, and a page that is added in it. -/
def addingScript : Script := .within (some "s1") none [] (.add [("page", .int 1)])

/-- The page stays after the block. -/
theorem added_stays : ∃ b ∈ (addingScript.run {}).blocks,
    b.entered.extra = [] ∧ b.left.extra = [("page", .int 1)] ∧ b.left ≠ b.entered := by
  refine ⟨_, List.mem_cons_self, rfl, rfl, fun h => ?_⟩
  cases congrArg extra h

end ReleaseSearch.Correlation
