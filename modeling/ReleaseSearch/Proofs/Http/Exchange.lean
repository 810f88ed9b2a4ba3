import ReleaseSearch.Http.Exchange

/-!
# How exchanges end

An exchange sends requests until the transport answers with a fault, or with a response after which
nothing is to be sent.  The main statement is that its end is what the transport said last, unless
a response cannot be followed: no fault is passed over, and no response is made up.
-/

namespace ReleaseSearch.Http

/-- An exchange that ends after a response ends in that response or in a fault. -/
theorem sequel_ends {request : Request} {follows : Bool} {r : Response}
    {outcome : Except Fault Response} (h : request.sequel follows r = .ends outcome) :
    outcome = .ok r ∨ ∃ f, outcome = .error f := by
  unfold Request.sequel at h
  split at h
  · cases h
    exact .inr ⟨_, rfl⟩
  · split at h
    · cases h
      exact .inl rfl
    · split at h
      · cases h
        exact .inr ⟨_, rfl⟩
      · split at h
        · cases h
        · cases h
          exact .inl rfl

/-- The end of an exchange agrees with what the transport said to the last request. -/
structure Exchange.Agrees (transport : Transport) (e : Exchange) : Prop where
  sent : e.requests ≠ []
  fault : ∀ f, transport e.requests.reverse = .fault f → e.outcome = .error f
  response : ∀ r, e.outcome = .ok r → transport e.requests.reverse = .response r

namespace Exchange.Agrees

variable {transport : Transport} {request : Request} {before : List Request}

theorem of_fault {f : Fault} (h : transport (request :: before) = .fault f) :
    Agrees transport ⟨(request :: before).reverse, .error f⟩ where
  sent := by simp
  fault f' hf' := by
    rw [List.reverse_reverse, h] at hf'
    cases hf'
    rfl
  response r hr := by cases hr

theorem of_response {r : Response} (h : transport (request :: before) = .response r) :
    Agrees transport ⟨(request :: before).reverse, .ok r⟩ where
  sent := by simp
  fault f hf := by
    rw [List.reverse_reverse, h] at hf
    cases hf
  response r' hr' := by
    cases hr'
    rw [List.reverse_reverse, h]

/-- After a response the exchange may still end in a fault of its own. -/
theorem of_error {r : Response} (h : transport (request :: before) = .response r) (f : Fault) :
    Agrees transport ⟨(request :: before).reverse, .error f⟩ where
  sent := by simp
  fault f' hf' := by
    rw [List.reverse_reverse, h] at hf'
    cases hf'
  response r' hr' := by cases hr'

theorem of_ends {r : Response} {follows : Bool} {outcome : Except Fault Response}
    (h : transport (request :: before) = .response r)
    (hends : request.sequel follows r = .ends outcome) :
    Agrees transport ⟨(request :: before).reverse, outcome⟩ := by
  rcases sequel_ends hends with rfl | ⟨f, rfl⟩
  · exact of_response h
  · exact of_error h f

end Exchange.Agrees

variable {transport : Transport} {request : Request} {before : List Request}

theorem exchangeFrom_of_fault {follows : Bool} {left : Nat} {cookies : List Cookie} {f : Fault}
    (h : transport (request :: before) = .fault f) :
    exchangeFrom transport follows left cookies before request =
      ⟨(request :: before).reverse, .error f⟩ := by
  unfold exchangeFrom
  simp only [h]

theorem exchangeFrom_of_ends {follows : Bool} {left : Nat} {cookies : List Cookie} {r : Response}
    {outcome : Except Fault Response} (h : transport (request :: before) = .response r)
    (hends : request.sequel follows r = .ends outcome) :
    exchangeFrom transport follows left cookies before request =
      ⟨(request :: before).reverse, outcome⟩ := by
  unfold exchangeFrom
  simp only [h, hends]

/-- Every exchange agrees with the transport; the induction is on the redirects that are left. -/
theorem exchangeFrom_agrees (transport : Transport) (follows : Bool) (left : Nat)
    (cookies : List Cookie) (before : List Request) (request : Request) :
    (exchangeFrom transport follows left cookies before request).Agrees transport := by
  -- By induction on the redirects that may still be followed. Only a response that redirects makes
  -- a difference: with none left it ends the exchange.
  induction left generalizing cookies before request with
  | zero =>
      cases h : transport (request :: before) with
      | fault f =>
          rw [exchangeFrom_of_fault h]
          exact .of_fault h
      | response r =>
          cases hsequel : request.sequel follows r with
          | goesOn next =>
              unfold exchangeFrom
              simp only [h, hsequel]
              exact .of_error h _
          | ends outcome =>
              rw [exchangeFrom_of_ends h hsequel]
              exact .of_ends h hsequel
  | succ left ih =>
      cases h : transport (request :: before) with
      | fault f =>
          rw [exchangeFrom_of_fault h]
          exact .of_fault h
      | response r =>
          cases hsequel : request.sequel follows r with
          | goesOn next =>
              unfold exchangeFrom
              simp only [h, hsequel]
              exact ih _ _ _
          | ends outcome =>
              rw [exchangeFrom_of_ends h hsequel]
              exact .of_ends h hsequel

/-- **An exchange ends with the first fault of the transport, or with its last response.** -/
theorem exchange_agrees (transport : Transport) (follows : Bool) (request : Request) :
    (exchange transport follows request).Agrees transport :=
  exchangeFrom_agrees transport follows redirectLimit [] [] request

end ReleaseSearch.Http
