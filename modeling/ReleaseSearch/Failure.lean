import ReleaseSearch.Schema.Problem
import ReleaseSearch.Decimal.Number
import ReleaseSearch.Text.Quoted

/-!
# Failures

A `Failure` is an expected way for a search to go wrong.  Its kind decides whether trying again
can help; its message and code are for the reader and for programs.  A `Breakdown` is anything
else: an operation that was given what it cannot work on.
-/

namespace ReleaseSearch

open Decimal

/-- Stands in a message for wording that is not this library's own. -/
def hiddenText : String := "<...>"

/-- What is wrong with a definition. -/
inductive Complaint where
  /-- Findings of the check of its shape. -/
  | findings (texts : List String)
  /-- Values that do not fit a definition. -/
  | unfit (problems : List Schema.Problem)
  /-- A value that could not be worked on; the text is there if it is this library's own. -/
  | refused (text : Option String)
  /-- A file that is in no known format. -/
  | unreadable

/-- The kinds of failures. -/
inductive FailureKind where
  | general
  | configuration
  | definition (complaint : Complaint)
  | network
  | connection
  | timeout
  | authentication
  | rateLimited (retryAfter : Option Number)
  | limitExceeded (service : String) (retryAfter : Option Number)
  | search
  | pathNotFound
  | invalidPath
  | invalidPattern (pattern : String)

/-- An expected way for a search to go wrong. -/
structure Failure where
  kind : FailureKind
  message : String
  status : Option Int := none
  excerpt : Option String := none

namespace FailureKind

def name : FailureKind → String
  | .general => "IndexerError"
  | .configuration => "ConfigurationError"
  | .definition _ => "DefinitionValidationError"
  | .network => "NetworkRetryableError"
  | .connection => "ConnectionFailedError"
  | .timeout => "RequestTimeoutError"
  | .authentication => "AuthenticationFailedError"
  | .rateLimited _ => "RateLimitedError"
  | .limitExceeded .. => "RateLimitExceeded"
  | .search => "SearchFailedError"
  | .pathNotFound => "PathNotFoundError"
  | .invalidPath => "InvalidPathError"
  | .invalidPattern _ => "InvalidRegexError"

/-- The names of a kind and of the more general kinds that it belongs to. -/
def lineage : FailureKind → List String
  | .general => ["IndexerError"]
  | .configuration => ["ConfigurationError", "IndexerError"]
  | .definition _ => ["DefinitionValidationError", "ConfigurationError", "IndexerError"]
  | .network => ["NetworkRetryableError", "IndexerError"]
  | .connection => ["ConnectionFailedError", "NetworkRetryableError", "IndexerError"]
  | .timeout => ["RequestTimeoutError", "NetworkRetryableError", "IndexerError"]
  | .authentication => ["AuthenticationFailedError", "IndexerError"]
  | .rateLimited _ => ["RateLimitedError", "IndexerError"]
  | .limitExceeded .. => ["RateLimitExceeded", "RateLimitedError", "IndexerError"]
  | .search => ["SearchFailedError", "IndexerError"]
  | .pathNotFound => ["PathNotFoundError", "SearchFailedError", "IndexerError"]
  | .invalidPath => ["InvalidPathError", "SearchFailedError", "IndexerError"]
  | .invalidPattern _ => ["InvalidRegexError", "IndexerError"]

/-- The stable code of a kind, which some kinds share. -/
def code : FailureKind → String
  | .general => "indexer_error"
  | .configuration | .definition _ => "configuration_error"
  | .network => "network_error"
  | .connection => "connection_failed"
  | .timeout => "timeout"
  | .authentication => "authentication_failed"
  | .rateLimited _ | .limitExceeded .. => "rate_limited"
  | .search => "search_failed"
  | .pathNotFound => "path_not_found"
  | .invalidPath => "invalid_path"
  | .invalidPattern _ => "invalid_regex"

/-- Whether trying again may help. -/
def isRetryable : FailureKind → Bool
  | .network | .connection | .timeout | .rateLimited _ | .limitExceeded .. => true
  | _ => false

/-- The delay that a failure suggests before trying again. -/
def retryAfter? : FailureKind → Option Number
  | .rateLimited delay | .limitExceeded _ delay => delay
  | _ => none

end FailureKind

/-- The text of a complaint, unless there is nothing to complain about. -/
def Complaint.text : Complaint → Option String
  | .findings [] => none
  | .findings texts => some ("; ".intercalate texts)
  | .unfit _ | .refused _ | .unreadable => some hiddenText

namespace Failure

/-- The name, the status and the message of a failure. -/
def headline (f : Failure) : String :=
  match f.status with
  | some status =>
    if status = 0 then f.kind.name ++ ": " ++ f.message
    else f.kind.name ++ " (HTTP " ++ intText status ++ "): " ++ f.message
  | none => f.kind.name ++ ": " ++ f.message

def text (f : Failure) : String :=
  match f.kind with
  | .definition (.unfit _) | .definition .unreadable => hiddenText
  | .definition complaint =>
    match complaint.text with
    | some t => f.headline ++ " (" ++ t ++ ")"
    | none => f.headline
  | _ => f.headline

/-- A definition cannot drive a search. -/
def configuration (message : String) : Failure := { kind := .configuration, message := message }

def search (message : String) : Failure := { kind := .search, message := message }

/-- A pattern, or the replacement that goes with it, cannot be read. -/
def invalidPattern (pattern reason : String) : Failure :=
  { kind := .invalidPattern pattern
    message := "Invalid regex " ++ Text.quoted pattern ++ ": " ++ reason }

def limitMessage (service : String) (delay : String) : String :=
  "Rate limit exceeded for " ++ service ++ ". Retry after " ++ delay ++ "s"

/-- The failure that an HTTP status stands for; 200 stands for none. -/
def ofStatus? (status : Int) (excerpt : Option String) (retryAfter : Option Number) :
    Option Failure :=
  let searchFailure (message : String) : Failure :=
    { kind := .search, message := message, status := some status, excerpt := excerpt }
  if status = 200 then none
  else if status = 401 ∨ status = 403 then
    some { kind := .authentication, message := "Authentication failed", status := some status
           excerpt := excerpt }
  else if status = 429 then
    some { kind := .rateLimited retryAfter, message := "Rate limit exceeded"
           status := some status }
  else if status ≥ 500 then some (searchFailure ("Server error: HTTP " ++ intText status))
  else if status ≥ 400 then some (searchFailure ("HTTP " ++ intText status))
  else some (searchFailure ("Unexpected status: " ++ intText status))

end Failure

/-- An operation that was given what it cannot work on. -/
inductive Breakdown where
  /-- A value of the right kind that is out of place; the text is there if it is this library's
  own. -/
  | badValue (text : Option String)
  /-- A value of the wrong kind. -/
  | badKind
  /-- A value without the parts that were asked for. -/
  | noPart
  /-- A map without an entry that was asked for. -/
  | noEntry
  /-- A list without an item that was asked for. -/
  | noItem
  /-- A number beyond the range of doubles. -/
  | tooLarge
  | divisionByZero
  /-- A text that is nested too deeply for the room that was left to read it in. -/
  | tooDeep
  /-- Bytes that are no text. -/
  | badEncoding
  /-- A file that is not there; the text is there if it is this library's own. -/
  | noFile (text : Option String)
  /-- An error from outside, with its text. -/
  | foreign (text : String)
  deriving DecidableEq, Repr

/-- Anything that can go wrong. -/
inductive Trouble where
  | failure (f : Failure)
  | unfit (problems : List Schema.Problem)
  | breakdown (b : Breakdown)

def Trouble.text : Trouble → String
  | .failure f => f.text
  | .unfit _ => hiddenText
  | .breakdown (.badValue (some t)) => t
  | .breakdown (.noFile (some t)) => t
  | .breakdown (.foreign t) => t
  | .breakdown _ => hiddenText

end ReleaseSearch
