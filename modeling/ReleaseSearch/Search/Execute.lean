import ReleaseSearch.Http.Exchange
import ReleaseSearch.Limiter.Registry
import ReleaseSearch.Log.Journal
import ReleaseSearch.Request.Basic
import ReleaseSearch.Settings

/-!
# Executing a search

The request of a search is built first.  Then the search waits for the turn of its indexer, makes
one call to the transport and checks the response.  A search that fails at one of these steps does
not come to the next one.  Every entry goes into the journal as soon as its step is done.
-/

namespace ReleaseSearch.Search

open Decimal Http Text

/-- What a search needs from around it. -/
structure Surroundings where
  settings : Settings := {}
  transport : Transport
  user : UserConfig := {}
  /-- When a sleep that begins at a time ends. -/
  sleep : Float → Float → Float := Limiter.exactly
  /-- How many sleeps a search may take. -/
  sleepLimit : Nat := 100000

/-- Where a search stands. -/
structure Progress (β : Type) where
  /-- What it has come to; `none` while it waits for its turn. -/
  outcome? : Option (Except Trouble β)
  journal : Journal
  /-- The end of asking the limiter. -/
  visit : Limiter.Visit Float
  /-- The call to the transport, if there was one. -/
  exchange : Option Exchange := none

/-- Where the entries of requests and responses come from. -/
def engineSource : String := "scoutarr.services.search_engine"

def limiterSource : String := "scoutarr.services.rate_limiter"

/-! ## Waiting -/

/-- The seconds that a search may wait for its turn. -/
def limitTimeout (settings : Settings) : Float := settings.limitTimeout.toFloat?.getD infinity

/-- Waits for the turn of an indexer. -/
def awaitTurn (s : Surroundings) (d : Definition) (limiter : Limiter Float) (now : Float) :
    Limiter.Visit Float :=
  limiter.passFor s.sleep s.sleepLimit d.id d.requestDelay (limitTimeout s.settings) now

def exceeded (service : String) (wait : Float) : Trouble :=
  .failure {
    kind := .limitExceeded service (some (.real wait))
    message := Failure.limitMessage service (fixedText 1 wait) }

/-- What an answer of the limiter means for a search: that it goes on, or what it ends in; `none`
while the search has to wait.  A token that was refused does not keep it from going on. -/
def turn? (service : String) : Limiter.Answer Float → Option (Except Trouble Unit)
  | .granted | .refused => some (.ok ())
  | .exceeded wait => some (.error (exceeded service wait))
  | .never => some (.error (.breakdown .divisionByZero))
  | .waiting => none

def visitEntries (d : Definition) (visit : Limiter.Visit Float) : List Entry :=
  let delay := (d.requestDelay.map floatText).getD ""
  (if visit.isPaced then
    [{ level := .info
       source := limiterSource
       message := "Rate limit configured for " ++ d.id ++ ": one request every " ++ delay
        ++ "s" }]
    else [])
    ++ visit.sleeps.map fun wait =>
      { level := .debug
        source := limiterSource
        message := "Rate limiter '" ++ d.id ++ "' waiting " ++ fixedText 2 wait ++ "s" }

/-! ## Calling -/

def call (s : Surroundings) (d : Definition) (url : String) (params : RequestParams) : Exchange :=
  let cookies := (s.user.cookieHeader?.map fun value => ("Cookie", value)).toList
  match Http.Request.make params.method url params.inputs (params.headers ++ cookies) with
  | .error fault => ⟨[], .error fault⟩
  | .ok request => exchange s.transport d.followRedirect request

def callEntry (url : String) (params : RequestParams) : Entry where
  level := .debug
  source := engineSource
  message := "Search request: " ++ params.method.name ++ " " ++ url

/-- The entry about the parameters of a call, if they can be put in words. -/
def paramsEntry (params : RequestParams) : Except Breakdown Entry := do
  return {
    level := .debug
    source := engineSource
    message := "Request params: " ++ (← (Data.object params.inputs).inWords) }

def faultTrouble (url : String) (fault : Fault) : Trouble :=
  let message := fault.message.getD hiddenText
  match fault.kind with
  | .timeout => .failure { kind := .timeout, message := "Request timeout to " ++ url }
  | .transport =>
    .failure { kind := .connection, message := "Connection failed to " ++ url ++ ": " ++ message }
  | .exchange => .failure (.search ("Request failed: " ++ message))
  | .failure f => .failure f
  | .unexpected => .breakdown (.foreign message)

/-! ## Checking -/

/-- Checks the status of a response. -/
def validate (r : Response) : Run Unit := do
  if r.status ≠ 200 then
    let excerpt := r.excerpt?
    if 400 ≤ r.status ∧ r.status < 500 ∧ ¬ [401, 403, 429].contains r.status then
      Run.note .warning engineSource
        ("Search returned HTTP " ++ intText r.status ++ ": "
          ++ (Data.optional .text excerpt).quoted)
    else if r.status < 400 then
      Run.note .warning engineSource ("Unexpected HTTP status: " ++ intText r.status)
    match Failure.ofStatus? r.status excerpt (r.retryAfter?.map .real) with
    | some failure => Run.fail failure
    | none => pure ()

/-- The response, if its status is good. -/
def checked (r : Response) : Run Response := do
  validate r
  return r

/-! ## Together -/

/-- What a search sends. -/
structure Draft where
  url : String
  params : RequestParams

/-- Builds the request of a search. -/
def build (d : Definition) (options : SearchOptions) : Except Trouble Draft := do
  let url ← d.searchUrl options
  let params ← (RequestParams.ofDefinition d options).mapError .breakdown
  return ⟨url, params⟩

/-- Sends a request whose turn has come, and checks the response. -/
def send (s : Surroundings) (d : Definition) (draft : Draft) (visit : Limiter.Visit Float)
    (journal : Journal) : Progress Response :=
  let journal := journal.write (callEntry draft.url draft.params)
  match paramsEntry draft.params with
  | .error b => { outcome? := some (.error (.breakdown b)), journal := journal, visit := visit }
  | .ok entry =>
    let journal := journal.write entry
    let exchange := call s d draft.url draft.params
    match exchange.outcome with
    | .error fault =>
      { outcome? := some (.error (faultTrouble draft.url fault)), journal := journal
        visit := visit, exchange := some exchange }
    | .ok response =>
      let check := checked response
      { outcome? := some check.outcome, journal := journal.writeAll check.entries, visit := visit
        exchange := some exchange }

/-- Builds, sends and checks the request of a search. -/
def execute (s : Surroundings) (d : Definition) (options : SearchOptions)
    (limiter : Limiter Float) (now : Float) (journal : Journal) : Progress Response :=
  match build d options with
  | .error trouble =>
    { outcome? := some (.error trouble), journal := journal
      visit := ⟨.granted, limiter, now, [], false⟩ }
  | .ok draft =>
    let visit := awaitTurn s d limiter now
    let journal := journal.writeAll (visitEntries d visit)
    match turn? d.id visit.answer with
    | none => { outcome? := none, journal := journal, visit := visit }
    | some (.error trouble) =>
      { outcome? := some (.error trouble), journal := journal, visit := visit }
    | some (.ok ()) => send s d draft visit journal

end ReleaseSearch.Search
