import ReleaseSearch.Proofs.Definition.Load
import ReleaseSearch.Proofs.Text.Case

/-!
# Headers as they are given

Headers are written as a map, in which a list stands for several headers of one name, or as a list
of pairs and of maps with a name and a value, in any mixture.  `GivesHeaders d given` says which
pairs a value gives: all that are written, in order, each once.

`normalizeHeaders_eq_ok_iff` says when there are headers and which ones: they are the given pairs in
words, and the user agent after them if none of the names is its name.  Headers that are written as
a list of pairs give themselves, so they stay as they are when they are read again
(`normalizeHeaders_given`).
-/

namespace ReleaseSearch.Definition

open Text

/-! ## What is given -/

/-- The pair that an item of a list gives: a map names its parts, anything else has two of them. -/
inductive GivesPair : Data → Data × Data → Prop
  | named {es : Entries} {name value : Data} (hname : Data.find? "name" es = some name)
      (hvalue : Data.find? "value" es = some value) : GivesPair (.map es) (name, value)
  | pair {d name value : Data} (hmap : ∀ es, d ≠ .map es)
      (hparts : d.contents? = some [name, value]) : GivesPair d (name, value)

/-- The pairs that the entries of a map give.  A list of values gives one pair for each of them, at
the place of its entry. -/
inductive GivesPairs : Entries → List (Data × Data) → Prop
  | nil : GivesPairs [] []
  | several {name : Data} {values : List Data} {rest : Entries} {given : List (Data × Data)}
      (hrest : GivesPairs rest given) :
      GivesPairs ((name, .list values) :: rest) (values.map (name, ·) ++ given)
  | one {name value : Data} {rest : Entries} {given : List (Data × Data)}
      (hvalue : ∀ values, value ≠ .list values) (hrest : GivesPairs rest given) :
      GivesPairs ((name, value) :: rest) ((name, value) :: given)

/-- The pairs that are given by what is written as headers. -/
inductive GivesHeaders : Data → List (Data × Data) → Prop
  | map {es : Entries} {given : List (Data × Data)} (h : GivesPairs es given) :
      GivesHeaders (.map es) given
  | absent {d : Data} (hmap : ∀ es, d ≠ .map es) (h : d.isPresent = false) : GivesHeaders d []
  | items {d : Data} {items : List Data} {given : List (Data × Data)} (hmap : ∀ es, d ≠ .map es)
      (hitems : d.contents? = some items) (h : List.Forall₂ GivesPair items given) :
      GivesHeaders d given

/-- An item gives no more than one pair. -/
theorem GivesPair.unique {d : Data} {pair pair' : Data × Data} (h : GivesPair d pair)
    (h' : GivesPair d pair') : pair = pair' := by
  cases h with
  | named hname hvalue =>
      cases h' with
      | named hname' hvalue' =>
          cases hname.symm.trans hname'
          cases hvalue.symm.trans hvalue'
          rfl
      | pair hmap => exact absurd rfl (hmap _)
  | pair hmap hparts =>
      cases h' with
      | named => exact absurd rfl (hmap _)
      | pair _ hparts' =>
          cases hparts.symm.trans hparts'
          rfl

theorem givesPairs_iff {es : Entries} {given : List (Data × Data)} :
    GivesPairs es given ↔
      given = es.flatMap fun entry => (headerValues entry.2).map (entry.1, ·) := by
  constructor
  · intro h
    induction h with
    | nil => rfl
    | several _ ih => rw [ih]; rfl
    | one hvalue _ ih =>
        rw [ih, List.flatMap_cons, headerValues]
        · rfl
        · exact fun values h => hvalue values h
  · rintro rfl
    induction es with
    | nil => exact .nil
    | cons entry rest ih =>
        obtain ⟨name, value⟩ := entry
        cases value with
        | list values => exact .several ih
        | _ => exact .one (by simp) ih

/-- What is written as headers gives no more than one list of pairs. -/
theorem GivesHeaders.unique {d : Data} {given given' : List (Data × Data)}
    (h : GivesHeaders d given) (h' : GivesHeaders d given') : given = given' := by
  cases h with
  | map h =>
      cases h' with
      | map h' => rw [givesPairs_iff.mp h, givesPairs_iff.mp h']
      | absent hmap => exact absurd rfl (hmap _)
      | items hmap => exact absurd rfl (hmap _)
  | absent hmap habsent =>
      cases h' with
      | map => exact absurd rfl (hmap _)
      | absent => rfl
      | items _ hitems h' =>
          -- An empty list is absent and a list without items: both give no pairs.
          cases eq_nil_of_not_isPresent habsent hitems
          cases h'
          rfl
  | items hmap hitems h =>
      cases h' with
      | map => exact absurd rfl (hmap _)
      | absent _ habsent =>
          cases eq_nil_of_not_isPresent habsent hitems
          cases h
          rfl
      | items _ hitems' h' =>
          cases hitems.symm.trans hitems'
          have hunique : Relator.RightUnique GivesPair := fun _ _ _ => GivesPair.unique
          exact hunique.forall₂ h h'

/-! ## In words -/

def shown (pair : Data × Data) : String × String := (pair.1.display, pair.2.display)

/-- Whether both parts of a pair can be put in words. -/
def IsWritablePair (pair : Data × Data) : Prop :=
  pair.1.isWritable = true ∧ pair.2.isWritable = true

def pairInWords (pair : Data × Data) : Except Breakdown (String × String) := do
  return (← pair.1.inWords, ← pair.2.inWords)

theorem pairInWords_eq_ok_iff {pair : Data × Data} {header : String × String} :
    pairInWords pair = .ok header ↔ IsWritablePair pair ∧ shown pair = header := by
  obtain ⟨name, value⟩ := pair
  unfold pairInWords IsWritablePair shown Data.inWords
  cases name.isWritable <;> cases value.isWritable <;>
    simp [pure, Except.pure, bind, Except.bind]

theorem mapM_pairInWords_eq_ok_iff {given : List (Data × Data)}
    {headers : List (String × String)} :
    given.mapM pairInWords = .ok headers ↔
      (∀ pair ∈ given, IsWritablePair pair) ∧ headers = given.map shown := by
  rw [mapM_eq_ok_iff]
  simp only [pairInWords_eq_ok_iff]
  rw [List.forall₂_and_left, ← List.forall₂_map_left_iff, List.forall₂_eq_eq_eq, eq_comm]

/-- The header of an item is the pair that it gives. -/
theorem GivesPair.headerOf_eq {d : Data} {pair : Data × Data} (h : GivesPair d pair) :
    headerOf d = pairInWords pair := by
  unfold headerOf
  cases h with
  | named hname hvalue =>
      simp only [hname, hvalue]
      rfl
  | pair hmap hparts =>
      split
      · exact absurd rfl (hmap _)
      · rw [hparts]
        rfl

/-- There is no header without a pair. -/
theorem exists_givesPair {d : Data} {header : String × String} (h : headerOf d = .ok header) :
    ∃ pair, GivesPair d pair := by
  unfold headerOf at h
  split at h
  · split at h
    · cases h
    · next name hname =>
      obtain ⟨_, _, h⟩ := bind_eq_ok_iff.mp h
      split at h
      · cases h
      · next value hvalue => exact ⟨(name, value), .named hname hvalue⟩
  · next hmap =>
    split at h
    · cases h
    · next name value hparts => exact ⟨(name, value), .pair hmap hparts⟩
    · cases h

theorem headerOf_eq_ok_iff {d : Data} {header : String × String} :
    headerOf d = .ok header ↔ ∃ pair, GivesPair d pair ∧ pairInWords pair = .ok header := by
  constructor
  · intro h
    obtain ⟨pair, hgives⟩ := exists_givesPair h
    exact ⟨pair, hgives, hgives.headerOf_eq.symm.trans h⟩
  · rintro ⟨pair, hgives, h⟩
    exact hgives.headerOf_eq.trans h

/-- **The headers that are written are the pairs that are given**, in words. -/
theorem writtenHeaders_eq_ok_iff {d : Data} {headers : List (String × String)} :
    writtenHeaders d = .ok headers ↔ ∃ given, GivesHeaders d given ∧
      (∀ pair ∈ given, IsWritablePair pair) ∧ headers = given.map shown := by
  simp only [← mapM_pairInWords_eq_ok_iff]
  unfold writtenHeaders
  split
  -- a map gives its entries in order
  · next es =>
    constructor
    · intro h
      exact ⟨_, .map (givesPairs_iff.mpr rfl), h⟩
    · rintro ⟨given, hgives, h⟩
      cases hgives with
      | map hgives =>
          rw [givesPairs_iff.mp hgives] at h
          exact h
      | absent hmap => exact absurd rfl (hmap _)
      | items hmap => exact absurd rfl (hmap _)
  -- anything else is gone through item by item, and what is absent has no items
  · next hmap =>
    refine Iff.trans bind_eq_ok_iff ?_
    simp only [contents_eq_ok_iff, mapM_eq_ok_iff, headerOf_eq_ok_iff, forall₂_exists_iff]
    constructor
    · rintro ⟨items, ⟨habsent, rfl⟩ | hitems, given, hgiven, h⟩
      · cases hgiven
        exact ⟨[], .absent hmap habsent, h⟩
      · exact ⟨given, .items hmap hitems hgiven, h⟩
    · rintro ⟨given, hgives, h⟩
      cases hgives with
      | map => exact absurd rfl (hmap _)
      | absent _ habsent => exact ⟨[], .inl ⟨habsent, rfl⟩, [], .nil, h⟩
      | items _ hitems hgiven => exact ⟨_, .inr hitems, given, hgiven, h⟩

/-! ## The user agent -/

/-- Whether a name is that of the header that is never left out, up to the case of its letters. -/
def NamesUserAgent (name : String) : Prop :=
  name.toList.map asciiLowerChar = userAgentName.toList.map asciiLowerChar

theorem isUserAgent_iff {header : String × String} :
    isUserAgent header = true ↔ NamesUserAgent header.1 := by
  have hword : IsAsciiWord "user-agent".toList := by simp [IsAsciiWord]
  have hname : userAgentName.toList.map asciiLowerChar = "user-agent".toList := by decide
  unfold NamesUserAgent
  rw [hname]
  exact beq_iff_eq.trans (lower_eq_iff hword)

/-- The headers that are made of what is given: the user agent is added if no name is its name. -/
inductive Completes (settings : Settings) (given : List (Data × Data)) :
    List (String × String) → Prop
  | named (h : ∃ pair ∈ given, NamesUserAgent pair.1.display) :
      Completes settings given (given.map shown)
  | unnamed (h : ∀ pair ∈ given, ¬ NamesUserAgent pair.1.display) :
      Completes settings given (given.map shown ++ [(userAgentName, settings.userAgent)])

variable {settings : Settings} {d : Data} {given : List (Data × Data)}
  {headers : List (String × String)}

theorem completes_iff :
    Completes settings given headers ↔ headers = withUserAgent settings (given.map shown) := by
  have hany : (given.map shown).any isUserAgent = true ↔
      ∃ pair ∈ given, NamesUserAgent pair.1.display := by
    simp only [List.any_map, List.any_eq_true, Function.comp_apply, isUserAgent_iff, shown]
  unfold withUserAgent
  constructor
  · intro h
    cases h with
    | named h => rw [if_pos (hany.mpr h)]
    | unnamed h =>
        have hnone := fun hsome => (hany.mp hsome).elim fun pair hpair => h pair hpair.1 hpair.2
        rw [if_neg hnone]
  · rintro rfl
    split
    · next hsome => exact .named (hany.mp hsome)
    · next hnone => exact .unnamed fun pair hmem h => hnone (hany.mpr ⟨pair, hmem, h⟩)

/-- **There are headers if the given pairs can be put in words**, and they are these pairs and the
user agent. -/
theorem normalizeHeaders_eq_ok_iff :
    normalizeHeaders settings d = .ok headers ↔ ∃ given, GivesHeaders d given ∧
      (∀ pair ∈ given, IsWritablePair pair) ∧ Completes settings given headers := by
  unfold normalizeHeaders
  simp only [map_eq_ok_iff, writtenHeaders_eq_ok_iff, completes_iff]
  constructor
  · rintro ⟨_, ⟨given, hgives, hwritable, rfl⟩, rfl⟩
    exact ⟨given, hgives, hwritable, rfl⟩
  · rintro ⟨given, hgives, hwritable, rfl⟩
    exact ⟨_, ⟨given, hgives, hwritable, rfl⟩, rfl⟩

/-- A list of values is taken apart where it stands, and the name of the user agent counts however
it is written. -/
example : normalizeHeaders {} (.object [("X-Multi", .list [.text "a", .text "b"]),
    ("USER-agent", .text "custom/1.0")]) =
      .ok [("X-Multi", "a"), ("X-Multi", "b"), ("USER-agent", "custom/1.0")] := by rfl

/-! ## Headers that are read again -/

def asPairs (headers : List (String × String)) : Data :=
  .list (headers.map fun header => .list [.text header.1, .text header.2])

/-- Headers as they are given by the list of their pairs. -/
def asTexts (header : String × String) : Data × Data := (.text header.1, .text header.2)

theorem givesHeaders_asPairs (headers : List (String × String)) :
    GivesHeaders (asPairs headers) (headers.map asTexts) := by
  refine .items (by simp [asPairs]) rfl ?_
  rw [List.forall₂_map_left_iff, List.forall₂_map_right_iff, List.forall₂_same]
  exact fun header _ => .pair (by simp) rfl

/-- **Headers with a user agent stay as they are.** -/
theorem normalizeHeaders_asPairs (h : ∃ header ∈ headers, isUserAgent header = true) :
    normalizeHeaders settings (asPairs headers) = .ok headers := by
  have hshown : (headers.map asTexts).map shown = headers := by
    rw [List.map_map]
    exact List.map_id _
  refine normalizeHeaders_eq_ok_iff.mpr ⟨_, givesHeaders_asPairs headers, ?_, ?_⟩
  · intro pair hmem
    obtain ⟨header, _, rfl⟩ := List.mem_map.mp hmem
    exact ⟨rfl, rfl⟩
  · rw [completes_iff, hshown, withUserAgent, if_pos (List.any_eq_true.mpr h)]

/-- **Headers are the pairs that are given, in order and in words**, with the user agent after them
exactly if no given name is its name; and they stay as they are when they are read again. -/
theorem normalizeHeaders_given (h : normalizeHeaders settings d = .ok headers) :
    (∃ given, (∀ pairs, GivesHeaders d pairs ↔ pairs = given) ∧
      (∀ pair ∈ given, IsWritablePair pair) ∧ Completes settings given headers) ∧
      ∀ others, normalizeHeaders others (asPairs headers) = .ok headers := by
  obtain ⟨given, hgives, hwritable, hcompletes⟩ := normalizeHeaders_eq_ok_iff.mp h
  have honly : ∀ pairs, GivesHeaders d pairs ↔ pairs = given := by
    refine fun pairs => ⟨fun hpairs => hpairs.unique hgives, ?_⟩
    rintro rfl
    exact hgives
  refine ⟨⟨given, honly, hwritable, hcompletes⟩, fun others => ?_⟩
  rw [completes_iff.mp hcompletes]
  exact normalizeHeaders_asPairs (exists_userAgent settings _)

/-- Headers of all kinds: a pair, a map with a name and a value, and a text of two characters. -/
def mixedHeaders : Data :=
  .list [.list [.text "Accept", .text "text/html"],
    .object [("name", .text "X-Flag"), ("value", .bool true)], .text "TE"]

/-- What they are read as. -/
def mixedRead : List (String × String) :=
  [("Accept", "text/html"), ("X-Flag", "True"), ("T", "E"),
    ("User-Agent", ({} : Settings).userAgent)]

theorem normalizeHeaders_given_mixed :
    normalizeHeaders {} mixedHeaders = .ok mixedRead ∧
      (∃ given, (∀ pairs, GivesHeaders mixedHeaders pairs ↔ pairs = given) ∧
        (∀ pair ∈ given, IsWritablePair pair) ∧ Completes {} given mixedRead) ∧
      ∀ others, normalizeHeaders others (asPairs mixedRead) = .ok mixedRead := by
  have hread : normalizeHeaders {} mixedHeaders = .ok mixedRead := by rfl
  exact ⟨hread, normalizeHeaders_given hread⟩

end ReleaseSearch.Definition
