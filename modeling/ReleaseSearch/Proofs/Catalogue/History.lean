import ReleaseSearch.Proofs.Catalogue.Basic

/-!
# What a catalogue remembers

A run performs operations one after another on a catalogue that is new, each of them while the files
are as in a directory of its own.  The catalogue at the end of a run is told by the events of the
run alone: what is kept under a name is the object that the last successful request for the name
gave, unless the name was dropped since (`find?_history_iff`).

`Change` lists all that one operation can do; everything about runs is derived from it.  The main
statement is `history_kept`.
-/

namespace ReleaseSearch.Catalogue

/-- What can be asked of a catalogue. -/
inductive Operation where
  | load (id : String) (useKept : Bool)
  | reload (id : String)
  /-- Forgets one name, or everything. -/
  | clear (id : Option String)

namespace Operation

/-- Whether an operation asks for the definition of a name. -/
def AsksFor (id : String) : Operation → Prop
  | load other _ | reload other => other = id
  | clear _ => False

/-- The names are not empty; clearing an empty name would be to clear everything. -/
def IsNamed : Operation → Prop
  | load id _ | reload id | clear (some id) => id ≠ ""
  | clear none => True

/-- Performs an operation; only clearing gives no answer. -/
def perform (settings : Settings) (dir : Directory) (c : Catalogue) :
    Operation → Option (Except Trouble Loaded) × Catalogue
  | load id useKept => (c.load settings dir id useKept).map some fun c => c
  | reload id => (c.reload settings dir id).map some fun c => c
  | clear id => (none, c.clear id)

end Operation

/-! ## One operation -/

section Change

variable {settings : Settings} {dir : Directory} {c c' : Catalogue} {id : String}

/-- All that an operation can do: what it answers, and the catalogue afterwards. -/
inductive Change (settings : Settings) (dir : Directory) (c : Catalogue) :
    Operation → Option (Except Trouble Loaded) → Catalogue → Prop where
  /-- What is kept is given again. -/
  | again {id : String} {l : Loaded} (hkept : c.find? id = some l) :
      Change settings dir c (.load id true) (some (.ok l)) c
  | fresh {id : String} {useKept : Bool} {d : Definition} (hreads : useKept → c.find? id = none)
      (hdefines : dir.Defines settings id d) :
      Change settings dir c (.load id useKept) (some (.ok ⟨c.next, d⟩)) (c.keep id d).2
  | absent {id : String} {useKept : Bool} {t : Trouble} (hreads : useKept → c.find? id = none)
      (hnone : ∀ d, ¬ dir.Defines settings id d) :
      Change settings dir c (.load id useKept) (some (.error t)) c
  | renewed {id : String} {d : Definition} (hdefines : dir.Defines settings id d) :
      Change settings dir c (.reload id) (some (.ok ⟨c.next, d⟩)) (c.keep id d).2
  /-- A reload that fails has forgotten the name before it failed. -/
  | lost {id : String} {t : Trouble} (hnone : ∀ d, ¬ dir.Defines settings id d) :
      Change settings dir c (.reload id) (some (.error t)) (c.forget id)
  | forgotten {id : String} : Change settings dir c (.clear (some id)) none (c.forget id)
  | emptied : Change settings dir c (.clear none) none (c.clear none)

theorem loadAfresh_of_ok {d : Definition} (c : Catalogue) (h : dir.load settings id = .ok d) :
    c.loadAfresh settings dir id = (.ok ⟨c.next, d⟩, (c.keep id d).2) := by
  unfold loadAfresh
  rw [h]
  rfl

theorem loadAfresh_of_error {t : Trouble} (c : Catalogue) (h : dir.load settings id = .error t) :
    c.loadAfresh settings dir id = (.error t, c) := by
  unfold loadAfresh
  rw [h]

/-- Reading the files gives a new object, which is kept, or it changes nothing. -/
theorem loadAfresh_cases (settings : Settings) (dir : Directory) (id : String) (c : Catalogue) :
    (∃ d, dir.Defines settings id d ∧
        c.loadAfresh settings dir id = (.ok ⟨c.next, d⟩, (c.keep id d).2)) ∨
      ((∀ d, ¬ dir.Defines settings id d) ∧ ∃ t, c.loadAfresh settings dir id = (.error t, c)) := by
  cases hload : dir.load settings id with
  | ok d => exact .inl ⟨d, Directory.load_eq_ok_iff.mp hload, loadAfresh_of_ok c hload⟩
  | error t =>
      refine .inr ⟨fun d hd => ?_, t, loadAfresh_of_error c hload⟩
      rw [Directory.load_eq_ok_iff.mpr hd] at hload
      cases hload

theorem load_of_kept {l : Loaded} (h : c.find? id = some l) :
    c.load settings dir id true = (.ok l, c) := by
  unfold load
  rw [if_pos rfl, h]

/-- Without use of what is kept, or with nothing kept, a load reads the files. -/
theorem load_of_reads {useKept : Bool} (h : useKept → c.find? id = none) :
    c.load settings dir id useKept = c.loadAfresh settings dir id := by
  unfold load
  cases useKept with
  | false => rfl
  | true => rw [if_pos rfl, h rfl]

theorem load_unkept : c.load settings dir id false = c.loadAfresh settings dir id :=
  load_of_reads nofun

theorem reload_eq (hid : id ≠ "") :
    c.reload settings dir id = (c.forget id).loadAfresh settings dir id := by
  unfold reload
  rw [clear_some hid]
  exact load_unkept

theorem load_change (useKept : Bool) :
    Change settings dir c (.load id useKept) (some (c.load settings dir id useKept).1)
      (c.load settings dir id useKept).2 := by
  by_cases hreads : useKept = true → c.find? id = none
  · rw [load_of_reads hreads]
    rcases loadAfresh_cases settings dir id c with ⟨d, hdefines, heq⟩ | ⟨hnone, t, heq⟩
    · rw [heq]
      exact .fresh hreads hdefines
    · rw [heq]
      exact .absent hreads hnone
  · obtain ⟨rfl, hkept⟩ := Classical.not_imp.mp hreads
    obtain ⟨l, hl⟩ := Option.ne_none_iff_exists'.mp hkept
    rw [load_of_kept hl]
    exact .again hl

theorem reload_change (hid : id ≠ "") :
    Change settings dir c (.reload id) (some (c.reload settings dir id).1)
      (c.reload settings dir id).2 := by
  rw [reload_eq hid]
  rcases loadAfresh_cases settings dir id (c.forget id) with ⟨d, hdefines, heq⟩ | ⟨hnone, t, heq⟩
  · rw [heq, keep_forget]
    exact .renewed hdefines
  · rw [heq]
    exact .lost hnone

/-- An operation does one of the things that are listed. -/
theorem perform_change (settings : Settings) (dir : Directory) (c : Catalogue) {o : Operation}
    (hnamed : o.IsNamed) :
    Change settings dir c o (o.perform settings dir c).1 (o.perform settings dir c).2 := by
  cases o with
  | load id useKept => exact load_change useKept
  | reload id => exact reload_change hnamed
  | clear id =>
      cases id with
      | none => exact .emptied
      | some id =>
          show Change settings dir c _ none (c.clear (some id))
          rw [clear_some hnamed]
          exact .forgotten

end Change

/-! ## Events -/

/-- An operation and its answer. -/
structure Event where
  operation : Operation
  answer : Option (Except Trouble Loaded)

namespace Event

/-- An event gives an object for a name. -/
def Gives (e : Event) (id : String) (l : Loaded) : Prop :=
  e.operation.AsksFor id ∧ e.answer = some (.ok l)

/-- After an event that drops a name nothing is kept under it: everything was cleared, or the name
was, or it was to be reloaded and that failed. -/
def Drops (e : Event) (id : String) : Prop :=
  match e.operation with
  | .load .. => False
  | .reload other => other = id ∧ ∀ l, e.answer ≠ some (.ok l)
  | .clear none => True
  | .clear (some other) => other = id

/-- An event leaves a name as it is. -/
def Spares (e : Event) (id : String) : Prop := (∀ l, ¬ e.Gives id l) ∧ ¬ e.Drops id

end Event

section Change

variable {settings : Settings} {dir : Directory} {c c' : Catalogue} {id : String} {o : Operation}
  {answer : Option (Except Trouble Loaded)} {l : Loaded}

/-- What is found after an operation is what it gave, or what was found before it if it spares the
name. -/
theorem Change.find?_iff (h : Change settings dir c o answer c') :
    c'.find? id = some l ↔ Event.Gives ⟨o, answer⟩ id l ∨
      (c.find? id = some l ∧ Event.Spares ⟨o, answer⟩ id) := by
  unfold Event.Spares Event.Gives Event.Drops Operation.AsksFor
  -- a change is about one name, which is the name in question or another one
  cases h with
  | @again id' l' hkept =>
      by_cases hid : id' = id
      · subst hid
        simp [hkept]
      · simp [hid]
  | @fresh id' _ _ _ _ =>
      by_cases hid : id' = id
      · subst hid
        simp
      · simp [hid, Ne.symm hid]
  | absent _ _ => simp
  | @renewed id' _ _ =>
      by_cases hid : id' = id
      · subst hid
        simp
      · simp [hid, Ne.symm hid]
  | @lost id' _ _ =>
      by_cases hid : id' = id
      · subst hid
        simp
      · simp [hid, Ne.symm hid]
  | @forgotten id' =>
      by_cases hid : id' = id
      · subst hid
        simp
      · simp [hid, Ne.symm hid]
  | emptied => simp

/-- What an operation gives is kept already, or it is new and has the next number. -/
theorem Change.number (h : Change settings dir c o answer c') (id : String) (l : Loaded) :
    c.next ≤ c'.next ∧ (Event.Gives ⟨o, answer⟩ id l →
      c.find? id = some l ∨ (l.number = c.next ∧ c'.next = c.next + 1)) := by
  unfold Event.Gives Operation.AsksFor
  cases h with
  | again hkept =>
      refine ⟨Nat.le_refl _, ?_⟩
      rintro ⟨rfl, hanswer⟩
      cases hanswer
      exact .inl hkept
  | fresh _ _ | renewed _ =>
      refine ⟨Nat.le_succ _, ?_⟩
      rintro ⟨_, hanswer⟩
      cases hanswer
      exact .inr ⟨rfl, rfl⟩
  | absent _ _ | lost _ | forgotten | emptied =>
      refine ⟨Nat.le_refl _, ?_⟩
      rintro ⟨_, hanswer⟩
      cases hanswer

end Change

/-! ## Runs -/

def advance (settings : Settings) (h : List Event × Catalogue) (step : Directory × Operation) :
    List Event × Catalogue :=
  let done := step.2.perform settings step.1 h.2
  (h.1 ++ [⟨step.2, done.1⟩], done.2)

/-- What comes of some operations on a new catalogue, oldest first, and the catalogue afterwards. -/
def history (settings : Settings) (plan : List (Directory × Operation)) : List Event × Catalogue :=
  plan.foldl (advance settings) ([], {})

/-- The object that was given last for a name, if the name was not dropped since. -/
def LastGave (events : List Event) (id : String) (l : Loaded) : Prop :=
  ∃ earlier e later, events = earlier ++ e :: later ∧ e.Gives id l ∧ ∀ e' ∈ later, e'.Spares id

section Runs

variable {settings : Settings} {plan : List (Directory × Operation)} {events : List Event}
  {id : String} {l : Loaded}

theorem history_snoc (settings : Settings) (plan : List (Directory × Operation))
    (step : Directory × Operation) :
    history settings (plan ++ [step]) = advance settings (history settings plan) step := by
  unfold history
  rw [List.foldl_append]
  rfl

theorem lastGave_snoc {e : Event} :
    LastGave (events ++ [e]) id l ↔ e.Gives id l ∨ (LastGave events id l ∧ e.Spares id) := by
  constructor
  · rintro ⟨earlier, given, later, hsplit, hgives, hlater⟩
    -- the last event gave the object, or it is one of those after that
    cases later using List.reverseRecOn with
    | nil =>
        obtain ⟨rfl, rfl⟩ := List.append_singleton_inj.mp hsplit
        exact .inl hgives
    | append_singleton later last =>
        have hsplit' : events ++ [e] = (earlier ++ given :: later) ++ [last] := by
          rw [hsplit]
          simp
        obtain ⟨rfl, rfl⟩ := List.append_singleton_inj.mp hsplit'
        refine .inr ⟨⟨earlier, given, later, rfl, hgives, fun e' he' => ?_⟩, hlater e (by simp)⟩
        exact hlater e' (List.mem_append_left _ he')
  · rintro (hgives | ⟨⟨earlier, given, later, rfl, hgives, hlater⟩, hspares⟩)
    · exact ⟨events, e, [], rfl, hgives, by simp⟩
    · refine ⟨earlier, given, later ++ [e], by simp, hgives, ?_⟩
      intro e' he'
      rcases List.mem_append.mp he' with hold | hnew
      · exact hlater e' hold
      · rw [List.mem_singleton.mp hnew]
        exact hspares

/-- **What is kept is what was given last**, by induction on the run: `Change.find?_iff` says what
one more operation does to both sides. -/
theorem find?_history_iff (settings : Settings) (hnamed : ∀ step ∈ plan, step.2.IsNamed)
    (id : String) (l : Loaded) :
    (history settings plan).2.find? id = some l ↔ LastGave (history settings plan).1 id l := by
  induction plan using List.reverseRecOn with
  | nil =>
      constructor
      · intro h
        cases h
      · rintro ⟨earlier, e, later, hsplit, _⟩
        cases earlier <;> cases hsplit
  | append_singleton plan step ih =>
      have hstep := perform_change settings step.1 (history settings plan).2
        (hnamed step (by simp))
      have hplan := ih fun step' hstep' => hnamed step' (List.mem_append_left _ hstep')
      rw [history_snoc]
      unfold advance
      rw [lastGave_snoc, hstep.find?_iff, hplan]

/-- Every object that was given has a number below the next one. -/
theorem number_lt_next (settings : Settings) (hnamed : ∀ step ∈ plan, step.2.IsNamed) {e : Event}
    (he : e ∈ (history settings plan).1) (hgives : e.Gives id l) :
    l.number < (history settings plan).2.next := by
  induction plan using List.reverseRecOn generalizing e id l with
  | nil => cases he
  | append_singleton plan step ih =>
      have hnamed' : ∀ step' ∈ plan, step'.2.IsNamed :=
        fun step' hstep' => hnamed step' (List.mem_append_left _ hstep')
      have hold {e : Event} {id : String} {l : Loaded} (he : e ∈ (history settings plan).1)
          (hgives : e.Gives id l) : l.number < (history settings plan).2.next :=
        ih hnamed' he hgives
      have hstep := perform_change settings step.1 (history settings plan).2
        (hnamed step (by simp))
      obtain ⟨hle, hnumber⟩ := hstep.number id l
      rw [history_snoc] at he ⊢
      unfold advance at he ⊢
      rcases List.mem_append.mp he with hmem | hnew
      · exact Nat.lt_of_lt_of_le (hold hmem hgives) hle
      · obtain rfl := List.mem_singleton.mp hnew
        rcases hnumber hgives with hkept | ⟨hl, hnext⟩
        · -- what is kept was given before, so that the induction hypothesis is about it
          obtain ⟨earlier, given, later, hsplit, hgiven, _⟩ :=
            (find?_history_iff settings hnamed' id l).mp hkept
          have hmem : given ∈ (history settings plan).1 := by
            rw [hsplit]
            simp
          exact Nat.lt_of_lt_of_le (hold hmem hgiven) hle
        · rw [hl]
          exact hnext ▸ Nat.lt_succ_self _

/-- No event of a run gave an object with the number of this one. -/
def IsNew (events : List Event) (l : Loaded) : Prop :=
  ∀ e ∈ events, ∀ id given, e.Gives id given → given.number ≠ l.number

/-- Two catalogues keep the same, but perhaps for what is kept under one name. -/
def AgreeBut (id : String) (c c' : Catalogue) : Prop :=
  ∀ other, other ≠ id → c'.find? other = c.find? other

/-- **A catalogue keeps what it gave.**  Take any run of a new catalogue on names that are not
empty, with any changes to the files between its operations, and then one more operation.

* What is kept under a name is the object that was given last for it, if the name was not dropped
  since.
* Asked for that name, the catalogue gives that very object, whatever the files are by now.
* Asked to read the files, because nothing is kept or because what is kept is not to be used, it
  gives the definition that the files make at that moment, as an object that was never given before,
  and keeps it in place of the old one.  If they make none, the request fails and nothing changes.
* A reload answers like a request to read the files; what is kept afterwards under its name is what
  it gave, and nothing if it failed.  The other names stay.
* Clearing a name drops that name alone, and clearing everything drops all names. -/
theorem history_kept {c : Catalogue} (hnamed : ∀ step ∈ plan, step.2.IsNamed)
    (hrun : history settings plan = (events, c)) :
    (∀ id l, c.find? id = some l ↔ LastGave events id l) ∧
    (∀ dir id l, LastGave events id l → c.load settings dir id true = (.ok l, c)) ∧
    (∀ dir id useKept, (useKept = true → ∀ l, ¬ LastGave events id l) →
      (∀ d, dir.Defines settings id d → ∃ l c', c.load settings dir id useKept = (.ok l, c') ∧
        l.definition = d ∧ IsNew events l ∧ c'.find? id = some l ∧ AgreeBut id c c') ∧
      ((∀ d, ¬ dir.Defines settings id d) →
        ∃ t, c.load settings dir id useKept = (.error t, c))) ∧
    (∀ dir id, id ≠ "" →
      (c.reload settings dir id).1 = (c.load settings dir id false).1 ∧
      (∀ l, (c.reload settings dir id).2.find? id = some l ↔
        (c.reload settings dir id).1 = .ok l) ∧
      AgreeBut id c (c.reload settings dir id).2) ∧
    (∀ id, id ≠ "" → (c.clear (some id)).find? id = none ∧ AgreeBut id c (c.clear (some id))) ∧
    (∀ id, (c.clear none).find? id = none) := by
  have hkept (id : String) (l : Loaded) : c.find? id = some l ↔ LastGave events id l := by
    have h := find?_history_iff settings hnamed id l
    rwa [hrun] at h
  -- numbers are given out in order, so that of a new object is none that was given before
  have hnew (d : Definition) : IsNew events ⟨c.next, d⟩ := by
    intro e he id given hgives
    have hmem : e ∈ (history settings plan).1 := by
      rw [hrun]
      exact he
    have hlt := number_lt_next settings hnamed hmem hgives
    rw [hrun] at hlt
    exact Nat.ne_of_lt hlt
  refine ⟨hkept, ?_, ?_, ?_, ?_, ?_⟩
  · intro dir id l hlast
    exact load_of_kept ((hkept id l).mpr hlast)
  · intro dir id useKept hnone
    have hreads : useKept = true → c.find? id = none := by
      intro h
      exact Option.eq_none_iff_forall_ne_some.mpr fun l hl => hnone h l ((hkept id l).mp hl)
    rw [load_of_reads hreads]
    rcases loadAfresh_cases settings dir id c with ⟨d', hdefines, heq⟩ | ⟨hundefined, t, heq⟩
    · refine ⟨fun d hd => ?_, fun h => absurd hdefines (h d')⟩
      -- a directory defines at most one definition of a name
      obtain rfl := hd.unique hdefines
      exact ⟨_, _, heq, rfl, hnew d, find?_keep_self, fun other => find?_keep_of_ne⟩
    · exact ⟨fun d hd => absurd hd (hundefined d), fun _ => ⟨t, heq⟩⟩
  · intro dir id hid
    rw [reload_eq hid, load_unkept]
    cases hload : dir.load settings id with
    | error t =>
        -- nothing is kept for the name, although something may have been before
        rw [loadAfresh_of_error _ hload, loadAfresh_of_error _ hload]
        refine ⟨rfl, fun l => ?_, fun other => find?_forget_of_ne⟩
        simp
    | ok d =>
        rw [loadAfresh_of_ok _ hload, loadAfresh_of_ok _ hload, keep_forget]
        refine ⟨rfl, fun l => ?_, fun other => find?_keep_of_ne⟩
        rw [find?_keep_self, Option.some.injEq, Except.ok.injEq]
        rfl
  · intro id hid
    rw [clear_some hid]
    exact ⟨find?_forget_self, fun other => find?_forget_of_ne⟩
  · exact fun id => find?_clear_none

end Runs

/-! ## A run -/

/-- A small definition, as it is written. -/
def sampleData : Data :=
  .object [("id", .text "n"), ("links", .list [.text "l"]),
    ("search", .object [("path", .text "/"), ("rows", .object [("selector", .text "tr")]),
      ("fields", .object [("title", .text "a"), ("download", .text "b")])])]

def sampleFiles : Directory :=
  ⟨"definitions", some [("n.json", Text.Utf8.encode (Json.text sampleData).toList)]⟩

def noFiles : Directory := ⟨"definitions", some []⟩

/-- The definition is loaded, the files go, and another name fails to be reloaded. -/
def samplePlan : List (Directory × Operation) :=
  [(sampleFiles, .load "n" true), (noFiles, .reload "m"), (noFiles, .clear (some "m"))]

/-- The object that was loaded first is what a request gives, though its file is gone. -/
theorem history_kept_sample : (∀ step ∈ samplePlan, step.2.IsNamed) ∧
    ∃ l, l.number = 0 ∧ LastGave (history {} samplePlan).1 "n" l ∧
      (history {} samplePlan).2.load {} noFiles "n" true = (.ok l, (history {} samplePlan).2) := by
  have hnamed : ∀ step ∈ samplePlan, step.2.IsNamed := by
    unfold samplePlan
    simp [Operation.IsNamed]
  have hfound : ((history {} samplePlan).2.find? "n").map (·.number) = some 0 := by decide +kernel
  obtain ⟨l, hl, hnumber⟩ := Option.map_eq_some_iff.mp hfound
  obtain ⟨hkept, hagain, _⟩ := history_kept hnamed (show history {} samplePlan = _ from rfl)
  have hlast := (hkept "n" l).mp hl
  exact ⟨hnamed, l, hnumber, hlast, hagain noFiles "n" l hlast⟩

end ReleaseSearch.Catalogue
