import ReleaseSearch.Http.Cookie
import ReleaseSearch.Http.Message
import ReleaseSearch.Http.Reference

/-!
# Exchanges

An exchange begins with one request.  While the answer is a redirect, and redirects are followed,
the next request goes to the place that it names; after twenty redirects the exchange is given up.
-/

namespace ReleaseSearch.Http

open Text

/-- What comes of sending a request. -/
inductive Reply where
  | response (r : Response)
  | fault (f : Fault)

/-- What answers requests: it knows all requests that were sent, the newest first. -/
abbrev Transport := List Request → Reply

/-- An exchange that has ended. -/
structure Exchange where
  /-- The requests that were sent, oldest first. -/
  requests : List Request
  outcome : Except Fault Response

def redirectLimit : Nat := 20

def redirectMethod (status : Int) (method : Method) : Method :=
  if status = 301 ∨ status = 302 ∨ status = 303 then .get else method

def redirectAddress (current : Address) (location : String) : Except Fault Address := do
  let orFault (kind : FaultKind) (a : Option Address) : Except Fault Address :=
    a.elim (.error { kind }) .ok
  let target ← orFault .transport (Address.read? location.toList)
  let target ←
    if !target.scheme.isEmpty && target.host.isEmpty then
      orFault .exchange (target.withHost? current.host)
    else pure target
  let target ←
    if target.isAbsolute then pure target
    else orFault .exchange (Address.read? (Reference.resolve current.text target.text))
  let fragment := current.fragment.getD []
  if fragment.isEmpty || !(target.fragment.getD []).isEmpty then pure target
  else orFault .exchange (target.withFragment? (Percent.decode fragment))

/-- The headers after a redirect.  Cookies are not sent on, and what proves who the user is goes to
no other place. -/
def redirectHeaders (current target : Address) (dropsBody : Bool) (hs : Headers) : Headers :=
  let hs :=
    if target.sameOrigin current then hs
    else
      let kept := if current.isSecured target then hs else hs.without "authorization"
      kept.replaceFirst "host" (String.ofList target.place)
  let hs := if dropsBody then (hs.without "content-length").without "transfer-encoding" else hs
  hs.without "cookie"

def Request.redirected (request : Request) (status : Int) (location : String) :
    Except Fault Request := do
  let method := redirectMethod status request.method
  let address ← redirectAddress request.address location
  let dropsBody := method ≠ request.method
  return {
    method := method
    address := address
    headers := redirectHeaders request.address address dropsBody request.headers
    body := if dropsBody then "" else request.body }

/-- What comes after a response. -/
inductive Sequel where
  | ends (outcome : Except Fault Response)
  | goesOn (next : Request)

/-- What comes after the response to a request. -/
def Request.sequel (request : Request) (follows : Bool) (r : Response) : Sequel :=
  -- Without a scheme nobody can say where the cookies of a response belong.
  if request.address.scheme.isEmpty then .ends (.error { kind := .unexpected })
  else
    match r.location? with
    | none => .ends (.ok r)
    | some location =>
      match request.redirected r.status location with
      | .error f => .ends (.error f)
      | .ok next => if follows then .goesOn next else .ends (.ok r)

/-- Sends a request after those that were sent before, and follows so many redirects. -/
def exchangeFrom (transport : Transport) (follows : Bool) :
    Nat → List Cookie → List Request → Request → Exchange
  | left, cookies, before, request =>
    let sent := request :: before
    match transport sent with
    | .fault f => ⟨sent.reverse, .error f⟩
    | .response r =>
      match request.sequel follows r with
      | .ends outcome => ⟨sent.reverse, outcome⟩
      | .goesOn next =>
        match left with
        | 0 => ⟨sent.reverse, .error { kind := .exchange }⟩
        | left + 1 =>
          let cookies := Cookie.afterResponse request.address r cookies
          let next := { next with headers := next.headers ++ Cookie.header cookies next.address }
          exchangeFrom transport follows left cookies sent next

/-- The exchange that begins with a request. -/
def exchange (transport : Transport) (follows : Bool) (request : Request) : Exchange :=
  exchangeFrom transport follows redirectLimit [] [] request

end ReleaseSearch.Http
