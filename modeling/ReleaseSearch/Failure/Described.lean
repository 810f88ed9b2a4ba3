import ReleaseSearch.Data.Basic
import ReleaseSearch.Failure

/-!
# Failures by description

A failure can be described by the name of its kind and by arguments, in order or by name.
-/

namespace ReleaseSearch.Trouble

open Decimal

abbrev Parameter := String × Bool

/-- The value of a parameter, or null if it is not given. -/
def argument (bound : List (String × Data)) (name : String) : Data :=
  ((bound.find? (·.1 == name)).map (·.2)).getD .null

/-- Gives parameters their values.  Too many, unknown, repeated and missing arguments break this
down. -/
def bindArguments (parameters : List Parameter) (args : List Data) (named : Entries) :
    Except Breakdown (List (String × Data)) :=
  let names := parameters.map (·.1)
  let inOrder := names.zip args
  let byName := (Data.map named).fields
  let given := inOrder ++ byName
  let isGood := args.length ≤ names.length
    && byName.all (fun a => names.contains a.1 && !inOrder.any (·.1 == a.1))
    && parameters.all (fun p => !p.2 || given.any (·.1 == p.1))
  if isGood then .ok given else .error .badKind

def text? : Data → Option String
  | .null => none
  | d => some d.display

def whole? : Data → Option Int
  | .int n => some n
  | .bool b => some (if b then 1 else 0)
  | _ => none

def delayText (d : Data) : Except Breakdown String :=
  match d.number?, d with
  | some n, _ => n.toFloat?.elim (.error .tooLarge) fun x => .ok (fixedText 1 x)
  | none, .text _ => .error (.badValue none)
  | none, _ => .error .badKind

/-- The parameters of most kinds of failures. -/
def usual : List Parameter := [("message", true), ("status_code", false), ("response_data", false)]

def ofUsual (kind : FailureKind) (args : List Data) (named : Entries) :
    Except Breakdown Trouble := do
  let bound ← bindArguments usual args named
  return .failure {
    kind := kind
    message := (argument bound "message").display
    status := whole? (argument bound "status_code")
    excerpt := text? (argument bound "response_data") }

/-- The failure of a kind that wraps another error. -/
def ofNetwork (kind : FailureKind) (args : List Data) (named : Entries) :
    Except Breakdown Trouble := do
  let bound ← bindArguments [("message", true), ("cause", false)] args named
  return .failure { kind := kind, message := (argument bound "message").display }

def ofFindings (args : List Data) (named : Entries) : Except Breakdown Trouble := do
  let bound ← bindArguments [("message", true), ("errors", false)] args named
  let texts := ((argument bound "errors").contents?.getD []).map (·.display)
  return .failure {
    kind := .definition (.findings texts), message := (argument bound "message").display }

def ofRateLimit (args : List Data) (named : Entries) : Except Breakdown Trouble := do
  let bound ←
    bindArguments [("message", true), ("retry_after", false), ("status_code", false)] args named
  return .failure {
    kind := .rateLimited (argument bound "retry_after").number?
    message := (argument bound "message").display
    status := whole? (argument bound "status_code") }

def ofLimit (args : List Data) (named : Entries) : Except Breakdown Trouble := do
  let bound ←
    bindArguments [("service", true), ("retry_after", true), ("message", false)] args named
  let service := (argument bound "service").display
  let delay := argument bound "retry_after"
  let message ←
    match (argument bound "message").present? with
    | some message => pure message.display
    | none => do pure (Failure.limitMessage service (← delayText delay))
  return .failure { kind := .limitExceeded service delay.number?, message := message }

def ofPattern (args : List Data) (named : Entries) : Except Breakdown Trouble := do
  let bound ← bindArguments [("pattern", true), ("reason", true)] args named
  let pattern := argument bound "pattern"
  return .failure {
    kind := .invalidPattern pattern.display
    message := "Invalid regex " ++ pattern.quoted ++ ": " ++ (argument bound "reason").display }

/-- The text of an error from outside with some arguments. -/
def argumentsText : List Data → String
  | [] => ""
  | [d] => d.display
  | args => "(" ++ ", ".intercalate (args.map (·.quoted)) ++ ")"

/-- The trouble that a name and arguments describe. -/
def described (name : String) (args : List Data) (named : Entries) : Except Breakdown Trouble :=
  match name with
  | "IndexerError" => ofUsual .general args named
  | "ConfigurationError" => ofUsual .configuration args named
  | "AuthenticationFailedError" => ofUsual .authentication args named
  | "SearchFailedError" => ofUsual .search args named
  | "PathNotFoundError" => ofUsual .pathNotFound args named
  | "InvalidPathError" => ofUsual .invalidPath args named
  | "DefinitionValidationError" => ofFindings args named
  | "NetworkRetryableError" => ofNetwork .network args named
  | "ConnectionFailedError" => ofNetwork .connection args named
  | "RequestTimeoutError" => ofNetwork .timeout args named
  | "RateLimitedError" => ofRateLimit args named
  | "RateLimitExceeded" => ofLimit args named
  | "InvalidRegexError" => ofPattern args named
  | "ValueError" =>
    if named.isEmpty then .ok (.breakdown (.badValue (some (argumentsText args))))
    else .error .badKind
  | _ => if named.isEmpty then .ok (.breakdown (.foreign (argumentsText args))) else .error .badKind

end ReleaseSearch.Trouble
