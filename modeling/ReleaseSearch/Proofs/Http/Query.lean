import Mathlib.Data.List.Infix
import Mathlib.Data.List.TakeWhile
import ReleaseSearch.Proofs.Http.Exchange
import ReleaseSearch.Proofs.Http.Form

/-!
# The query of a request

The query of an address is what stands between the first question mark and the number sign after
it.  The fields of a request are those of its address.  The main statement is that a request without
inputs has the fields of the address that it was made for, and that with inputs these take the place
of all others.
-/

namespace ReleaseSearch.Http

open Text

/-! ## Splitting at a character -/

namespace Parts

variable {sep : Char}

/-- What stands before the place of the split may be longer. -/
theorem splitAtFirst_append {front : List Char} (h : sep ∉ front) (cs : List Char) :
    splitAtFirst sep (front ++ cs) =
      (front ++ (splitAtFirst sep cs).1, (splitAtFirst sep cs).2) := by
  unfold splitAtFirst
  rw [cut?_append_of_not_mem h]
  cases cut? sep cs with
  | none => rfl
  | some parts => rfl

/-! ## The query of an address -/

def queryOf (cs : List Char) : Option (List Char) :=
  (splitAtFirst '?' (splitAtFirst '#' cs).1).2

theorem queryOf_append {front : List Char} (hquery : '?' ∉ front) (hfragment : '#' ∉ front)
    (cs : List Char) : queryOf (front ++ cs) = queryOf cs := by
  unfold queryOf
  rw [splitAtFirst_append hfragment, splitAtFirst_append hquery]

/-- A scheme is split off, up to its colon, or nothing is. -/
theorem splitScheme_cases (cs : List Char) :
    splitScheme cs = ([], cs) ∨ ∃ name rest, splitScheme cs = (name, rest) ∧
      cs = name ++ ':' :: rest ∧ ∀ c ∈ name, isSchemeChar c = true := by
  cases cs with
  | nil => exact .inl rfl
  | cons c cs =>
      unfold splitScheme
      by_cases hletter : Percent.isAsciiLetter c = true
      · simp only [hletter, if_true]
        split
        · next rest hrest =>
          refine .inr ⟨_, rest, rfl, ?_, fun c hc => List.mem_takeWhile_imp hc⟩
          rw [← hrest]
          exact List.prefix_append_drop (List.takeWhile_prefix _)
        · exact .inl rfl
      · simp only [hletter]
        split
        · next rest hrest =>
            exact .inr ⟨[], rest, rfl, hrest, fun c hc => absurd hc List.not_mem_nil⟩
        · exact .inl rfl

/-- What may not stand in a scheme, nor end one, comes after it. -/
theorem splitScheme_append (cs : List Char) :
    ∃ front, cs = front ++ (splitScheme cs).2 ∧
      ∀ c ∈ front, isSchemeChar c = true ∨ c = ':' := by
  rcases splitScheme_cases cs with h | ⟨name, rest, h, hcs, hchars⟩
  · rw [h]
    exact ⟨[], rfl, fun c hc => absurd hc List.not_mem_nil⟩
  · rw [h]
    refine ⟨name ++ [':'], ?_, fun c hc => ?_⟩
    · rw [List.append_assoc, List.singleton_append]
      exact hcs
    · exact (List.mem_append.mp hc).imp (hchars c) List.mem_singleton.mp

theorem query_split (cs : List Char) : (split cs).query = queryOf cs := by
  obtain ⟨front, hcs, hfront⟩ := splitScheme_append cs
  have hmem : ∀ sep, isSchemeChar sep = false → sep ≠ ':' → sep ∉ front := by
    intro sep hscheme hcolon h
    rcases hfront sep h with h | h
    · rw [hscheme] at h
      cases h
    · exact hcolon h
  conv_rhs => rw [hcs, queryOf_append (hmem '?' (by decide) (by decide))
    (hmem '#' (by decide) (by decide))]
  rfl

end Parts

/-! ## Addresses -/

namespace Address

def fields (a : Address) : List (String × String) := (a.query.map Form.read).getD []

variable {a b : Address} {p : Parts} {host : Option (List Char)}

theorem ofParts?_eq_some (h : ofParts? p host = some a) :
    a.query = p.query.map (Percent.encodeWith isQuerySafe) ∧
      ∃ path, a.path = Percent.encodeWith isPathSafe path := by
  unfold ofParts? at h
  simp only [Option.bind_eq_bind, Option.bind_eq_some_iff] at h
  obtain ⟨host', _, service, _, h⟩ := h
  split at h
  · cases h
  · cases h
    exact ⟨rfl, _, rfl⟩

/-- An address has the fields of the parts that it is made of. -/
theorem fields_of_ofParts? (h : ofParts? p host = some a) :
    a.fields = (p.query.map Form.read).getD [] := by
  unfold fields
  rw [(ofParts?_eq_some h).1]
  cases p.query with
  | none => rfl
  | some query => exact Form.read_quote query

theorem fields_of_rebuild? (h : rebuild? p host = some a) :
    a.fields = (p.query.map Form.read).getD [] := by
  unfold rebuild? at h
  simp only at h
  split at h
  · exact fields_of_ofParts? h
  · cases h

theorem read?_eq_some {cs : List Char} (h : read? cs = some a) :
    ofParts? (Parts.split cs) = some a := by
  unfold read? at h
  split at h
  · exact h
  · cases h

theorem fields_of_withQuery? {query : List Char} (h : a.withQuery? query = some b) :
    b.fields = Form.read query :=
  fields_of_rebuild? h

/-- A question mark is encoded in a path. -/
theorem not_mem_path (h : ofParts? p host = some a) : '?' ∉ a.path := by
  obtain ⟨_, path, hpath⟩ := ofParts?_eq_some h
  have hdigit : ∀ n < 16, Percent.hexDigit n ≠ '?' := by decide
  rw [hpath]
  intro hmem
  obtain ⟨c, _, hc⟩ := List.mem_flatMap.mp hmem
  unfold Percent.encodeChar at hc
  split at hc
  · next hsafe =>
      rw [← List.mem_singleton.mp hc] at hsafe
      exact absurd hsafe (by decide)
  · rcases Percent.mem_encodeBytes hc with hc | ⟨n, hn, hc⟩
    · exact absurd hc (by decide)
    · exact hdigit n hn hc.symm

/-- The slashes at the beginning of a path end before its query. -/
theorem dropWhile_append_query (path : List Char) (query : Option (List Char)) :
    (path ++ (query.map ('?' :: ·)).getD []).dropWhile (· == '/') =
      path.dropWhile (· == '/') ++ (query.map ('?' :: ·)).getD [] := by
  rw [List.dropWhile_append]
  split
  · next hempty =>
      rw [List.isEmpty_iff.mp hempty, List.nil_append]
      cases query with
      | none => rfl
      | some query => rfl
  · rfl

/-- Where a request goes does not change its fields. -/
theorem fields_of_target? (hpath : '?' ∉ a.path) (h : a.target? = some b) :
    b.fields = a.fields := by
  unfold target? at h
  split at h
  · cases h
    rfl
  · -- The path and the query are put together and split again at the same place.
    simp only at h
    have hslash : '?' ∉ '/' :: (if a.path.isEmpty then ['/'] else a.path).dropWhile (· == '/') := by
      rw [List.mem_cons]
      rintro (hmem | hmem)
      · exact absurd hmem (by decide)
      · have hmem := (List.dropWhile_sublist _).subset hmem
        split at hmem
        · exact absurd hmem (by decide)
        · exact hpath hmem
    rw [dropWhile_append_query, ← List.cons_append, Parts.splitAtFirst_append hslash] at h
    rw [fields_of_rebuild? h]
    unfold fields
    cases a.query with
    | none => rfl
    | some query => rfl

/-- **An address that is read has the fields of its query.** -/
theorem fields_of_read? {cs : List Char} (h : (read? cs).bind target? = some a) :
    a.fields = ((Parts.queryOf cs).map Form.read).getD [] := by
  obtain ⟨b, hread, htarget⟩ := Option.bind_eq_some_iff.mp h
  have hparts := read?_eq_some hread
  rw [fields_of_target? (not_mem_path hparts) htarget, fields_of_ofParts? hparts, Parts.query_split]

end Address

/-! ## Requests -/

namespace Request

abbrev fields (r : Request) : List (String × String) := r.address.fields

/-- **The fields of a request.**  If there are inputs they take the place of the fields of the
address. -/
theorem fields_of_make {url : String} {inputs : List (String × Data)} {headers : Headers}
    {r : Request} (h : make .get url inputs headers = .ok r) :
    r.fields =
      if inputs = [] then ((Parts.queryOf url.toList).map Form.read).getD []
      else Form.fields inputs := by
  unfold make at h
  cases hread : (Address.read? url.toList).bind Address.target? with
  | none =>
      rw [hread] at h
      cases h
  | some address =>
      rw [hread] at h
      simp only [Option.elim, Except.bind, bind, pure, Except.pure] at h
      split at h
      · cases h
      -- without inputs the query of the address is sent, and otherwise they take its place
      · cases inputs with
        | nil =>
            cases h
            exact Address.fields_of_read? hread
        | cons input rest =>
            rw [if_neg (List.cons_ne_nil _ _)]
            cases hquery :
                address.withQuery? (Form.encode (Form.fields (input :: rest))).toList with
            | none => simp [hquery] at h
            | some address' =>
                simp only [hquery] at h
                cases h
                exact (Address.fields_of_withQuery? hquery).trans (Form.read_encode _)

end Request

/-- The requests that were sent before come first, and then the one that is sent. -/
theorem requests_exchangeFrom (transport : Transport) (follows : Bool) (left : Nat)
    (cookies : List Cookie) (before : List Request) (request : Request) :
    ∃ later, (exchangeFrom transport follows left cookies before request).requests =
      before.reverse ++ request :: later := by
  -- Every way that ends here has sent this request and no more.
  have hsent : (request :: before).reverse = before.reverse ++ request :: [] := List.reverse_cons
  induction left generalizing cookies before request with
  | zero =>
      unfold exchangeFrom
      simp only
      split
      · exact ⟨[], hsent⟩
      · split
        · exact ⟨[], hsent⟩
        · exact ⟨[], hsent⟩
  | succ left ih =>
      unfold exchangeFrom
      simp only
      split
      · exact ⟨[], hsent⟩
      · split
        · exact ⟨[], hsent⟩
        · next next _ =>
            obtain ⟨later, hlater⟩ := ih _ (request :: before) _ List.reverse_cons
            rw [hlater, hsent, List.append_assoc, List.singleton_append]
            exact ⟨_, rfl⟩

theorem head?_requests_exchange (transport : Transport) (follows : Bool) (request : Request) :
    (exchange transport follows request).requests.head? = some request := by
  obtain ⟨later, h⟩ := requests_exchangeFrom transport follows redirectLimit [] [] request
  unfold exchange
  rw [h]
  rfl

end ReleaseSearch.Http
