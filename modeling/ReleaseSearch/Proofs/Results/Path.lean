import ReleaseSearch.Proofs.Except
import ReleaseSearch.Proofs.Text.Pieces
import ReleaseSearch.Results.Path

/-!
# Where a path leads

A path is followed key by key.  `Leads` says where its keys lead to, as a relation: each of them is
looked up in a map, which holds something other than null under it.  The main statement is
`navigate_steps`.  A path that is written with a front and a back leads where its back leads from
where its front leads, and a path that leads nowhere fails by its first step that cannot be taken.
-/

namespace ReleaseSearch.Results.Path

open Text

/-! ## Writing a path -/

def dotted (keys : List String) : String := "$." ++ ".".intercalate keys

/-- A key that can be written in a path with others. -/
structure IsPlain (key : String) : Prop where
  ne_empty : key ≠ ""
  no_point : '.' ∉ key.toList

theorem keys_of_toList {path : String} {rest : List Char} (hpath : path.toList = '$' :: '.' :: rest)
    (hne : rest ≠ []) : keys path = (splitOn '.' rest).map String.ofList := by
  unfold keys
  rw [hpath]
  cases rest with
  | nil => exact absurd rfl hne
  | cons c rest => rfl

theorem toList_dotted (names : List String) :
    (dotted names).toList = '$' :: '.' :: ['.'].intercalate (names.map String.toList) := by
  unfold dotted
  rw [String.toList_append, String.toList_intercalate]
  rfl

/-- **The keys of a written path** are those that it was written with. -/
theorem keys_dotted {names : List String} (hne : names ≠ [])
    (hplain : ∀ name ∈ names, IsPlain name) :
    keys (dotted names) = names := by
  have hsplit : splitOn '.' (['.'].intercalate (names.map String.toList)) =
      names.map String.toList := by
    refine splitOn_intercalate (by simpa using hne) fun piece hpiece => ?_
    obtain ⟨name, hname, rfl⟩ := List.mem_map.mp hpiece
    exact (hplain name hname).no_point
  have hwritten : ['.'].intercalate (names.map String.toList) ≠ [] := by
    -- Splitting nothing gives one empty piece, and no name is empty.
    intro hnil
    rw [hnil] at hsplit
    have hmem : [] ∈ names.map String.toList := hsplit ▸ List.mem_singleton.mpr rfl
    obtain ⟨name, hname, hempty⟩ := List.mem_map.mp hmem
    exact (hplain name hname).ne_empty (String.toList_eq_nil_iff.mp hempty)
  rw [keys_of_toList (toList_dotted names) hwritten, hsplit, List.map_map]
  simp

/-- Only the two paths of the root have no keys. -/
theorem keys_eq_nil_iff {path : String} : keys path = [] ↔ path = "$" ∨ path = "$." := by
  constructor
  · intro h
    unfold keys at h
    split at h
    · next hpath => exact .inl (String.toList_injective hpath)
    · next hpath => exact .inr (String.toList_injective hpath)
    · next rest _ _ =>
      rw [List.map_eq_nil_iff, splitOn_eq] at h
      split at h <;> cases h
    · cases h
  · rintro (rfl | rfl) <;> rfl

/-! ## One step -/

/-- A map holds something other than null under a key. -/
def Holds (value : Data) (key : String) (found : Data) : Prop :=
  ∃ es, value = .map es ∧ Data.find? key es = some found ∧ found ≠ .null

/-- A map holds nothing under a key, or null. -/
def Lacks (value : Data) (key : String) : Prop :=
  ∃ es, value = .map es ∧ (Data.find? key es = none ∨ Data.find? key es = some .null)

def IsNoMap (value : Data) : Prop := ∀ es, value ≠ .map es

variable {value found : Data} {key : String}

theorem step_of_holds (h : Holds value key found) : step value key = .ok found := by
  obtain ⟨es, rfl, hfind, hnull⟩ := h
  unfold step
  simp only [hfind]

theorem step_of_lacks (h : Lacks value key) : step value key = .error (.missing key) := by
  obtain ⟨es, rfl, hfind⟩ := h
  unfold step
  rcases hfind with hfind | hfind
  · simp only [hfind]
  · simp only [hfind]

theorem step_of_isNoMap (h : IsNoMap value) : step value key = .error (.notMap key) := by
  unfold step
  split
  · next es => exact absurd rfl (h es)
  · rfl

/-- A key is there, or it is not, or there are no keys. -/
theorem step_cases (value : Data) (key : String) :
    (∃ found, Holds value key found) ∨ Lacks value key ∨ IsNoMap value := by
  by_cases hmap : ∃ es, value = .map es
  · obtain ⟨es, rfl⟩ := hmap
    cases hfind : Data.find? key es with
    | none => exact .inr (.inl ⟨es, rfl, .inl hfind⟩)
    | some found =>
        by_cases hnull : found = .null
        · exact .inr (.inl ⟨es, rfl, .inr (hnull ▸ hfind)⟩)
        · exact .inl ⟨found, es, rfl, hfind, hnull⟩
  · exact .inr (.inr (not_exists.mp hmap))

theorem step_eq_ok_iff : step value key = .ok found ↔ Holds value key found := by
  refine ⟨fun h => ?_, step_of_holds⟩
  rcases step_cases value key with ⟨found', hfound⟩ | hlacks | hno
  · rw [step_of_holds hfound] at h
    exact Except.ok.inj h ▸ hfound
  · rw [step_of_lacks hlacks] at h
    cases h
  · rw [step_of_isNoMap hno] at h
    cases h

theorem step_eq_error_iff {fault : Fault} :
    step value key = .error fault ↔
      Lacks value key ∧ fault = .missing key ∨ IsNoMap value ∧ fault = .notMap key := by
  constructor
  · intro h
    rcases step_cases value key with ⟨found', hfound⟩ | hlacks | hno
    · rw [step_of_holds hfound] at h
      cases h
    · rw [step_of_lacks hlacks] at h
      exact .inl ⟨hlacks, (Except.error.inj h).symm⟩
    · rw [step_of_isNoMap hno] at h
      exact .inr ⟨hno, (Except.error.inj h).symm⟩
  · rintro (⟨hlacks, rfl⟩ | ⟨hno, rfl⟩)
    · exact step_of_lacks hlacks
    · exact step_of_isNoMap hno

/-! ## Following keys -/

/-- Some keys lead from a value to another one. -/
inductive Leads : Data → List String → Data → Prop
  | here {value : Data} : Leads value [] value
  | next {value inner found : Data} {key : String} {rest : List String}
      (hkey : Holds value key inner) (hrest : Leads inner rest found) :
      Leads value (key :: rest) found

/-- What is found under a key is not null. -/
theorem Leads.ne_null {keys : List String} (h : Leads value keys found) (hne : keys ≠ []) :
    found ≠ .null := by
  induction h with
  | here => exact absurd rfl hne
  | @next value inner found key rest hkey hrest ih =>
      cases rest with
      | nil =>
          cases hrest
          obtain ⟨_, _, _, hnull⟩ := hkey
          exact hnull
      | cons key' rest => exact ih (List.cons_ne_nil _ _)

theorem follow_eq_ok_iff {keys : List String} :
    follow value keys = .ok found ↔ Leads value keys found := by
  unfold follow
  induction keys generalizing value with
  | nil =>
      constructor
      · rintro ⟨⟩
        exact .here
      · rintro ⟨⟩
        rfl
  | cons key rest ih =>
      rw [List.foldlM_cons, bind_eq_ok_iff]
      constructor
      · rintro ⟨inner, hkey, hrest⟩
        exact .next (step_eq_ok_iff.mp hkey) (ih.mp hrest)
      · rintro ⟨⟩
        next inner hkey hrest => exact ⟨inner, step_eq_ok_iff.mpr hkey, ih.mpr hrest⟩

/-- Following keys stops at the first one that is not found. -/
theorem follow_eq_error_iff {keys : List String} {fault : Fault} :
    follow value keys = .error fault ↔ ∃ before key after found, keys = before ++ key :: after ∧
      Leads value before found ∧ step found key = .error fault := by
  unfold follow
  rw [foldlM_eq_error_iff]
  simp only [← follow_eq_ok_iff]
  rfl

theorem follow_append (value : Data) (front back : List String) :
    follow value (front ++ back) = follow value front >>= fun found => follow found back :=
  List.foldlM_append

/-! ## Following a path -/

def Fault.kind : Fault → FailureKind
  | .missing _ => .pathNotFound
  | .notMap _ => .invalidPath

theorem Fault.kind_failure (path : String) (fault : Fault) :
    (fault.failure path).kind = fault.kind := by
  cases fault <;> rfl

/-- Up to the wording of its failure, a path is as good as its keys. -/
theorem navigate_kind (value : Data) (path : String) :
    (navigate value path).mapError Failure.kind =
      (follow value (keys path)).mapError Fault.kind := by
  unfold navigate
  cases follow value (keys path) with
  | ok found => rfl
  | error fault => exact congrArg Except.error (fault.kind_failure path)

theorem navigate_eq_ok_iff {path : String} :
    navigate value path = .ok found ↔ Leads value (keys path) found :=
  mapError_eq_ok_iff.trans follow_eq_ok_iff

/-- Following a path comes to looking up a key in a value; all keys before it are found. -/
def ComesTo (data : Data) (path : String) (value : Data) (key : String) : Prop :=
  ∃ before after, keys path = before ++ key :: after ∧ Leads data before value

theorem navigate_eq_error_iff {data : Data} {path : String} {f : Failure} :
    navigate data path = .error f ↔ ∃ value key, ComesTo data path value key ∧
      (Lacks value key ∧ f = Fault.failure path (.missing key) ∨
        IsNoMap value ∧ f = Fault.failure path (.notMap key)) := by
  unfold navigate
  rw [mapError_eq_error_iff]
  constructor
  · rintro ⟨fault, hfollow, rfl⟩
    -- The step that fails tells which of the two it is.
    obtain ⟨before, key, after, value, hkeys, hleads, hstep⟩ := follow_eq_error_iff.mp hfollow
    refine ⟨value, key, ⟨before, after, hkeys, hleads⟩, ?_⟩
    rcases step_eq_error_iff.mp hstep with ⟨hlacks, rfl⟩ | ⟨hno, rfl⟩
    · exact .inl ⟨hlacks, rfl⟩
    · exact .inr ⟨hno, rfl⟩
  · rintro ⟨value, key, ⟨before, after, hkeys, hleads⟩, ⟨hlacks, rfl⟩ | ⟨hno, rfl⟩⟩
    · exact ⟨_, follow_eq_error_iff.mpr
        ⟨before, key, after, value, hkeys, hleads, step_of_lacks hlacks⟩, rfl⟩
    · exact ⟨_, follow_eq_error_iff.mpr
        ⟨before, key, after, value, hkeys, hleads, step_of_isNoMap hno⟩, rfl⟩

/-- **Composition**: a path leads where its back leads from where its front leads. -/
theorem navigate_dotted_append (data : Data) {front back : List String} (hfront : front ≠ [])
    (hback : back ≠ []) (hplain : ∀ key ∈ front ++ back, IsPlain key) :
    (navigate data (dotted (front ++ back))).mapError Failure.kind =
      (navigate data (dotted front) >>= fun value =>
        navigate value (dotted back)).mapError Failure.kind := by
  -- keys without points and brackets are read back as they were written
  have hkeys : keys (dotted (front ++ back)) = front ++ back :=
    keys_dotted (List.append_ne_nil_of_left_ne_nil hfront back) hplain
  have hkeysFront : keys (dotted front) = front :=
    keys_dotted hfront fun key hkey => hplain key (List.mem_append_left _ hkey)
  have hkeysBack : keys (dotted back) = back :=
    keys_dotted hback fun key hkey => hplain key (List.mem_append_right _ hkey)
  rw [navigate_kind, hkeys, follow_append]
  cases hfollow : follow data front with
  -- the messages name the whole path and its front, so only the kinds agree
  | error fault =>
      have hfails : navigate data (dotted front) = .error (fault.failure (dotted front)) := by
        unfold navigate
        rw [hkeysFront, hfollow]
        rfl
      rw [hfails]
      exact congrArg Except.error (fault.kind_failure _).symm
  | ok found =>
      have hleads : navigate data (dotted front) = .ok found := by
        unfold navigate
        rw [hkeysFront, hfollow]
        rfl
      rw [hleads]
      show (follow found back).mapError Fault.kind =
        (navigate found (dotted back)).mapError Failure.kind
      rw [navigate_kind, hkeysBack]

/-- The kind of a failure tells what the first step that can not be taken looks like. -/
theorem exists_failure_iff {data : Data} {path : String} :
    ((∃ f, navigate data path = .error f ∧ f.kind = .pathNotFound) ↔
        ∃ value key, ComesTo data path value key ∧ Lacks value key) ∧
      ((∃ f, navigate data path = .error f ∧ f.kind = .invalidPath) ↔
        ∃ value key, ComesTo data path value key ∧ IsNoMap value) := by
  simp only [navigate_eq_error_iff]
  constructor
  · constructor
    · rintro ⟨f, ⟨value, key, hcomes, ⟨hlacks, rfl⟩ | ⟨hno, rfl⟩⟩, hkind⟩
      · exact ⟨value, key, hcomes, hlacks⟩
      · cases hkind
    · rintro ⟨value, key, hcomes, hlacks⟩
      exact ⟨_, ⟨value, key, hcomes, .inl ⟨hlacks, rfl⟩⟩, rfl⟩
  · constructor
    · rintro ⟨f, ⟨value, key, hcomes, ⟨hlacks, rfl⟩ | ⟨hno, rfl⟩⟩, hkind⟩
      · cases hkind
      · exact ⟨value, key, hcomes, hno⟩
    · rintro ⟨value, key, hcomes, hno⟩
      exact ⟨_, ⟨value, key, hcomes, .inr ⟨hno, rfl⟩⟩, rfl⟩

/-- **Following a path**, for every value and every path.

* A path that is written with a front and a back leads where its back leads from where its front
  leads, or fails as one of these does.
* A path leads to a value, which is null only if the path is one of the root, or it fails.
* It fails by a missing key if the first step that can not be taken looks up a key in a map that
  holds nothing or null under it, and by an invalid step if that step looks up a key in what is no
  map. -/
theorem navigate_steps (data : Data) :
    (∀ front back : List String, front ≠ [] → back ≠ [] → (∀ key ∈ front ++ back, IsPlain key) →
      (navigate data (dotted (front ++ back))).mapError Failure.kind =
        (navigate data (dotted front) >>= fun value =>
          navigate value (dotted back)).mapError Failure.kind) ∧
      ∀ path,
        ((∃ value, navigate data path = .ok value ∧ Leads data (keys path) value ∧
            (value = .null → path = "$" ∨ path = "$.")) ∨
          ∃ f, navigate data path = .error f ∧ (f.kind = .pathNotFound ∨ f.kind = .invalidPath)) ∧
        ((∃ f, navigate data path = .error f ∧ f.kind = .pathNotFound) ↔
          ∃ value key, ComesTo data path value key ∧ Lacks value key) ∧
        ((∃ f, navigate data path = .error f ∧ f.kind = .invalidPath) ↔
          ∃ value key, ComesTo data path value key ∧ IsNoMap value) := by
  refine ⟨fun front back hfront hback hplain => navigate_dotted_append data hfront hback hplain,
    fun path => ⟨?_, exists_failure_iff⟩⟩
  cases h : navigate data path with
  | ok value =>
      have hleads : Leads data (keys path) value := navigate_eq_ok_iff.mp h
      refine .inl ⟨value, rfl, hleads, fun hnull => keys_eq_nil_iff.mp ?_⟩
      -- null is found at no key: it counts as missing
      by_contra hne
      exact hleads.ne_null hne hnull
  | error f =>
      obtain ⟨_, _, _, ⟨_, rfl⟩ | ⟨_, rfl⟩⟩ := navigate_eq_error_iff.mp h
      · exact .inr ⟨_, rfl, .inl rfl⟩
      · exact .inr ⟨_, rfl, .inr rfl⟩

/-! ## Some paths -/

/-- An answer with a list, a text and a null in it. -/
def nestedAnswer : Data :=
  .object [("data", .object [("torrents", .list [.object [("a", .int 1)]]), ("meta", .text "x")]),
    ("empty", .null)]

/-- Two keys are followed at once or one after the other; a null counts as missing, and a text has
no keys. -/
theorem navigate_steps_sample :
    (∀ key ∈ ["data"] ++ ["meta"], IsPlain key) ∧
      (navigate nestedAnswer (dotted ["data", "meta"])).mapError Failure.kind =
        (navigate nestedAnswer (dotted ["data"]) >>= fun value =>
          navigate value (dotted ["meta"])).mapError Failure.kind ∧
      navigate nestedAnswer "$.data.meta" = .ok (.text "x") ∧
      (navigate nestedAnswer "$.empty").mapError Failure.kind = .error .pathNotFound ∧
      (navigate nestedAnswer "$.data.meta.deeper").mapError Failure.kind = .error .invalidPath := by
  have hplain : ∀ key ∈ ["data"] ++ ["meta"], IsPlain key := by
    intro key hkey
    simp only [List.cons_append, List.nil_append, List.mem_cons, List.not_mem_nil, or_false] at hkey
    rcases hkey with rfl | rfl
    · exact ⟨by decide, by decide⟩
    · exact ⟨by decide, by decide⟩
  obtain ⟨hcomposed, _⟩ := navigate_steps nestedAnswer
  exact ⟨hplain, hcomposed ["data"] ["meta"] (by decide) (by decide) hplain, rfl, rfl, rfl⟩

end ReleaseSearch.Results.Path
