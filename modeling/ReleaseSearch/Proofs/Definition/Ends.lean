import ReleaseSearch.Proofs.Definition.Load
import ReleaseSearch.Proofs.Definition.Trap

/-!
# How loading ends

Whatever is written, loading it ends in one of three ways: in a definition, in a failure that says
what is wrong with it, or in a breakdown.  `Trap raw` says where the breakdowns are, and `load_ends`
that there are no others.
-/

namespace ReleaseSearch.Definition

open Decimal Schema

variable {α : Type} {settings : Settings} {raw : Data}

/-- An end in a definition, or in a failure that says what is wrong with one. -/
inductive EndsWell : Except Trouble Definition → Prop
  | definition (d : Definition) : EndsWell (.ok d)
  | failure {f : Failure} {complaint : Complaint} (h : f.kind = .definition complaint) :
      EndsWell (.error (.failure f))

/-- A trap in what has the right shape. -/
inductive ReadingTrap (raw : Data) : Prop
  | ignored {fields : Entries} {field : Data × Data}
      (hfields : (raw.valueAt "search").valueAt "fields" = .map fields) (hmem : field ∈ fields)
      (h : IsUnspeakable field)
  | headers (h : HeaderTrap ((raw.valueAt "search").valueAt "headers"))
  | inputs {headers : List (String × String)}
      (hheaders : writtenHeaders ((raw.valueAt "search").valueAt "headers") = .ok headers)
      (h : InputTrap ((raw.valueAt "search").valueAt "inputs"))
  | delay {headers : List (String × String)} {inputs : Data}
      (hheaders : writtenHeaders ((raw.valueAt "search").valueAt "headers") = .ok headers)
      (hinputs : normalizeInputs ((raw.valueAt "search").valueAt "inputs") = .ok inputs)
      (h : IsTooLarge (raw.valueAt "request_delay"))

/-- A trap in what is written. -/
inductive Trap (raw : Data) : Prop
  | id (h : ¬ (raw.valueAt "id").isWritable = true)
  | unit (hparts : HasParts raw) (h : ¬ (raw.valueAt "request_delay_unit").isWritable = true)
  | search (hparts : HasParts raw) (h : SearchTrap (raw.valueAt "search"))
  | reading (hclean : findings raw = .ok []) (h : ReadingTrap raw)

/-! ## The id -/

theorem exists_words {d? : Option Data} (h : (d?.getD .null).isWritable = true) (missing : String) :
    ∃ text, d?.elim (.ok missing) Data.inWords = .ok text := by
  cases d? with
  | none => exact ⟨missing, rfl⟩
  | some d => exact ⟨_, Data.inWords_of_isWritable h⟩

theorem words_of_not_isWritable {d? : Option Data} (h : ¬ (d?.getD .null).isWritable = true)
    (missing : String) : d?.elim (.ok missing) Data.inWords = .error (.badValue none) := by
  cases d? with
  | none => exact absurd rfl h
  | some d => exact Data.inWords_of_not_isWritable h

/-- What is left out as absent can be put in words. -/
theorem isWritable_bind_present? (d? : Option Data) :
    ((d?.bind Data.present?).getD .null).isWritable = (d?.getD .null).isWritable := by
  cases d? with
  | none => rfl
  | some d =>
      by_cases h : d.isPresent = true
      · simp [Data.present?, h]
      · have hwords : d.isWritable = true := by
          by_contra hlong
          exact h (Data.isPresent_of_not_isWritable hlong)
        simp [Data.present?, h, hwords, Data.isWritable]

theorem load_of_long_id (h : ¬ (raw.valueAt "id").isWritable = true) :
    ∃ b, (load settings raw).outcome = .error (.breakdown b) := by
  cases hfindings : findings raw with
  | error b => exact ⟨b, load_of_error hfindings⟩
  | ok texts =>
      refine ⟨.badValue none, ?_⟩
      cases texts with
      | nil =>
          obtain ⟨s⟩ := shape_of_findings hfindings
          rw [load_of_clean hfindings, s.outcome_ofWritten, words_of_not_isWritable h]
          rfl
      | cons text texts =>
          rw [load_of_findings hfindings, words_of_not_isWritable]
          · rfl
          · rw [isWritable_bind_present?]
            exact h

theorem endsWell_of_findings {text : String} {texts : List String}
    (hfindings : findings raw = .ok (text :: texts)) (h : (raw.valueAt "id").isWritable = true) :
    EndsWell (load settings raw).outcome := by
  obtain ⟨id, hid⟩ := exists_words ((isWritable_bind_present? (raw.get? "id")).trans h) "<unknown>"
  rw [load_of_findings hfindings, hid]
  exact .failure rfl

/-! ## Reading step by step -/

section Steps

variable {id : String} {e : Except Breakdown α} {next : α → Except Trouble Definition}

/-- Only what escapes stays a breakdown. -/
theorem breakdown_of_escapes (h : Escapes e) :
    ∃ b, (e.mapError .breakdown >>= next).mapError (readingTrouble id) = .error (.breakdown b) := by
  obtain ⟨b, rfl, hescapes⟩ := h
  cases b with
  | badValue problem => exact absurd rfl (hescapes problem)
  | _ => exact ⟨_, rfl⟩

/-- What is refused becomes a failure. -/
theorem endsWell_of_not_escapes (h : ¬ Escapes e)
    (hnext : ∀ a, e = .ok a → EndsWell ((next a).mapError (readingTrouble id))) :
    EndsWell ((e.mapError .breakdown >>= next).mapError (readingTrouble id)) := by
  cases e with
  | ok a => exact hnext a rfl
  | error b =>
      cases b with
      | badValue problem => exact .failure rfl
      | _ => exact absurd ⟨_, rfl, by simp⟩ h

end Steps

/-- A record is read to its end. -/
theorem Shape.endsWell_ofEntries (s : Shape raw) (id : String) (paths : List Data)
    (headers : List (String × String)) (inputs : Data) (delay : Option Float) :
    EndsWell ((ofEntries (s.record id paths headers inputs delay)).outcome.mapError
      (readingTrouble id)) := by
  obtain ⟨check, hcheck⟩ := exists_outcome_readEntries s.fields_fit
  have hfields := s.outcome_readFields id paths headers inputs delay
  rw [hcheck] at hfields
  rcases outcome_ofEntries_of_readFields hfields with ⟨d, hd⟩ | ⟨problems, hproblems⟩
  · rw [hd]
    exact .definition d
  · rw [hproblems]
    exact .failure rfl

/-- With an id and fields that can be put in words, headers, inputs and the delay are left. -/
theorem Shape.outcome_ofWritten_of_words (s : Shape raw) (settings : Settings) {id : String}
    (hid : (raw.get? "id").elim (.ok "") Data.inWords = .ok id)
    (hfields : ∀ field ∈ s.fields, ¬ IsUnspeakable field) :
    ∃ paths, (ofWritten settings raw).outcome = Except.mapError (readingTrouble id)
      ((normalizeHeaders settings s.headers).mapError .breakdown >>= fun headers =>
        (normalizeInputs s.inputs).mapError .breakdown >>= fun inputs =>
        (Delay.normalize (raw.valueAt "request_delay")
          (raw.valueAt "request_delay_unit") id).outcome >>= fun delay =>
        (ofEntries (s.record id paths headers inputs delay)).outcome) := by
  obtain ⟨paths, hpaths, _⟩ := s.normalizePaths
  refine ⟨paths, ?_⟩
  rw [s.outcome_ofWritten, hid, outcome_normalizeFields s.fields_fit hfields, Run.mapError_ok,
    Run.ok_bind, Run.ok_bind, s.outcome_recordOf settings id hpaths]
  simp only [bind_assoc]
  rfl

/-- A trap breaks the reading down. -/
theorem Shape.breakdown_of_trap (s : Shape raw) (h : ReadingTrap raw) {id : String}
    (hid : (raw.get? "id").elim (.ok "") Data.inWords = .ok id) :
    ∃ b, (ofWritten settings raw).outcome = .error (.breakdown b) := by
  by_cases hspeak : ∀ field ∈ s.fields, ¬ IsUnspeakable field
  · obtain ⟨paths, houtcome⟩ := s.outcome_ofWritten_of_words settings hid hspeak
    have hpart : ∀ key, (raw.valueAt "search").valueAt key = (Data.map s.search).valueAt key :=
      fun key => by rw [s.search_eq]
    have hwritten : ∀ {headers}, writtenHeaders s.headers = .ok headers →
        normalizeHeaders settings s.headers = .ok (withUserAgent settings headers) :=
      fun h => map_eq_ok_iff.mpr ⟨_, h, rfl⟩
    rw [houtcome]
    cases h with
    | ignored hfields hmem hfield =>
        rw [hpart, s.fields_eq] at hfields
        cases hfields
        exact absurd hfield (hspeak _ hmem)
    | headers h =>
        rw [hpart] at h
        exact breakdown_of_escapes (escapes_normalizeHeaders_iff.mpr h)
    | inputs hheaders h =>
        rw [hpart] at hheaders h
        rw [hwritten hheaders, Run.mapError_ok, Run.ok_bind]
        exact breakdown_of_escapes (escapes_normalizeInputs_iff.mpr h)
    | delay hheaders hinputs h =>
        rw [hpart] at hheaders hinputs
        rw [hwritten hheaders, show normalizeInputs s.inputs = _ from hinputs,
          outcome_normalize_of_isTooLarge h]
        exact ⟨.tooLarge, rfl⟩
  · -- The fields are read outside of what is guarded, so even a refusal is a breakdown there.
    obtain ⟨field, hmem, hfield⟩ := not_forall₂.mp hspeak
    refine ⟨.badValue none, ?_⟩
    rw [s.outcome_ofWritten, hid,
      outcome_normalizeFields_of_unspeakable s.fields_fit hmem (not_not.mp hfield)]
    rfl

/-- Without one it goes on to its end. -/
theorem Shape.endsWell_of_not_trap (s : Shape raw) (h : ¬ ReadingTrap raw) {id : String}
    (hid : (raw.get? "id").elim (.ok "") Data.inWords = .ok id) :
    EndsWell (ofWritten settings raw).outcome := by
  have hpart : ∀ key, (raw.valueAt "search").valueAt key = (Data.map s.search).valueAt key :=
    fun key => by rw [s.search_eq]
  have hspeak : ∀ field ∈ s.fields, ¬ IsUnspeakable field := fun field hmem hfield =>
    h (.ignored ((hpart "fields").trans s.fields_eq) hmem hfield)
  obtain ⟨paths, houtcome⟩ := s.outcome_ofWritten_of_words settings hid hspeak
  rw [houtcome]
  refine endsWell_of_not_escapes (fun hescapes => ?_) fun headers hheaders => ?_
  · have htrap := escapes_normalizeHeaders_iff.mp hescapes
    exact h (.headers (hpart "headers" ▸ htrap))
  -- What comes next is a trap only where what came before was read.
  obtain ⟨written, hwritten, _⟩ := map_eq_ok_iff.mp hheaders
  have hwritten := (congrArg writtenHeaders (hpart "headers")).trans hwritten
  refine endsWell_of_not_escapes (fun hescapes => ?_) fun inputs hinputs => ?_
  · have htrap := escapes_normalizeInputs_iff.mp hescapes
    exact h (.inputs hwritten (hpart "inputs" ▸ htrap))
  have hinputs := (congrArg normalizeInputs (hpart "inputs")).trans hinputs
  have hsmall : ¬ IsTooLarge (raw.valueAt "request_delay") := fun hlarge =>
    h (.delay hwritten hinputs hlarge)
  obtain ⟨seconds, hseconds⟩ := s.exists_outcome_normalize hsmall id
  rw [hseconds]
  exact s.endsWell_ofEntries id paths headers inputs seconds

/-! ## The whole -/

/-- A trap breaks the loading down. -/
theorem Trap.breakdown (h : Trap raw) :
    ∃ b, (load settings raw).outcome = .error (.breakdown b) := by
  have hlook : Fails (findings raw) → ∃ b, (load settings raw).outcome = .error (.breakdown b) :=
    fun ⟨b, hb⟩ => ⟨b, load_of_error hb⟩
  cases h with
  | id hlong => exact load_of_long_id hlong
  | unit hparts hlong => exact hlook (fails_findings_iff.mpr ⟨hparts, .inl hlong⟩)
  | search hparts h => exact hlook (fails_findings_iff.mpr ⟨hparts, .inr h⟩)
  | reading hclean h =>
      by_cases hid : (raw.valueAt "id").isWritable = true
      · obtain ⟨s⟩ := shape_of_findings hclean
        obtain ⟨id, hwords⟩ := exists_words hid ""
        rw [load_of_clean hclean]
        exact s.breakdown_of_trap h hwords
      · exact load_of_long_id hid

/-- There is none in what is loaded. -/
theorem not_trap_of_isOk (settings : Settings) (h : (load settings raw).outcome.isOk = true) :
    ¬ Trap raw := by
  intro htrap
  obtain ⟨b, hb⟩ : ∃ b, (load settings raw).outcome = .error (.breakdown b) := htrap.breakdown
  rw [hb] at h
  cases h

/-- Without one it goes on to its end. -/
theorem endsWell_of_not_trap (h : ¬ Trap raw) : EndsWell (load settings raw).outcome := by
  have hid : (raw.valueAt "id").isWritable = true := by
    by_contra hlong
    exact h (.id hlong)
  cases hfindings : findings raw with
  | error b =>
      obtain ⟨hparts, hlong | htrap⟩ := fails_findings_iff.mp ⟨b, hfindings⟩
      · exact absurd (.unit hparts hlong) h
      · exact absurd (.search hparts htrap) h
  | ok texts =>
      cases texts with
      | nil =>
          obtain ⟨s⟩ := shape_of_findings hfindings
          obtain ⟨id, hwords⟩ := exists_words hid ""
          rw [load_of_clean hfindings]
          exact s.endsWell_of_not_trap (fun htrap => h (.reading hfindings htrap)) hwords
      | cons text texts => exact endsWell_of_findings hfindings hid

/-- **Whatever is written, loading it breaks down at a trap, and otherwise ends** in a definition or
in a failure that says what is wrong. -/
theorem load_ends (settings : Settings) (raw : Data) :
    (Trap raw → ∃ b, (load settings raw).outcome = .error (.breakdown b)) ∧
      (¬ Trap raw → EndsWell (load settings raw).outcome) :=
  ⟨Trap.breakdown, endsWell_of_not_trap⟩

/-- Paths that are a number are a trap, and a list of them is none. -/
theorem load_ends_samples :
    (Trap (sampleWritten (.int 5) .null) ∧
      ∃ b, (load {} (sampleWritten (.int 5) .null)).outcome = .error (.breakdown b)) ∧
    ¬ Trap (sampleWritten samplePaths .null) ∧
      EndsWell (load {} (sampleWritten samplePaths .null)).outcome := by
  have hparts : HasParts (sampleWritten (.int 5) .null) := by
    unfold HasParts
    decide +kernel
  have htrap : Trap (sampleWritten (.int 5) .null) :=
    .search hparts (.path (.contents (by decide +kernel) (by decide +kernel)))
  have hloaded : (load {} (sampleWritten samplePaths .null)).outcome.isOk = true := by
    decide +kernel
  have hfree : ¬ Trap (sampleWritten samplePaths .null) := by
    intro h
    obtain ⟨b, hb⟩ := (load_ends {} (sampleWritten samplePaths .null)).1 h
    rw [hb] at hloaded
    cases hloaded
  exact ⟨⟨htrap, (load_ends {} _).1 htrap⟩, hfree, (load_ends {} _).2 hfree⟩

/-- A definition whose paths are a number is not refused: it breaks the loading down. -/
theorem load_numbered_paths :
    (load {} (sampleWritten (.int 5) .null)).outcome = .error (.breakdown .badKind) := by
  have hfindings : findings (sampleWritten (.int 5) .null) = .error .badKind := by decide +kernel
  exact load_of_error hfindings

end ReleaseSearch.Definition
