import ReleaseSearch.Data.Basic
import ReleaseSearch.Decimal.Number
import ReleaseSearch.Decimal.Read
import ReleaseSearch.Failure
import ReleaseSearch.Text.Case
import ReleaseSearch.Text.Substring

/-!
# Settings

The settings come from named variables, each of which has a default.
-/

namespace ReleaseSearch

open Decimal Text

structure Settings where
  debug : Bool := false
  logLevel : String := "INFO"
  logJson : Bool := false
  /-- Where definitions are; the default directory if nothing is set. -/
  definitions : Option String := none
  /-- How many seconds a request may take. -/
  requestTimeout : Number := .real 30
  userAgent : String :=
    "Mozilla/5.0 (X11; Linux x86_64; rv:128.0) Gecko/20100101 Firefox/128.0"
  /-- How many seconds a search may wait for its turn. -/
  limitTimeout : Number := .real 60
  maxRetries : Number := .whole 5
  retryBaseDelay : Number := .real 1
  retryGrowth : Number := .real 2

namespace Settings

def title : String := "Scoutarr"

def description : String := "Definition-driven indexer search and release ranking"

def version : String := "1.0.0"

def defaultDirectory : String := "definitions"

abbrev Variables := List (String × String)

def value? (vars : Variables) (name : String) : Option String :=
  (vars.find? (·.1 == name)).map (·.2)

def isOn (vars : Variables) (name : String) : Bool := (value? vars name).any (lower · == "true")

def readReal (vars : Variables) (name : String) (default : Number) : Except Breakdown Number :=
  match value? vars name with
  | none => .ok default
  | some s =>
    match readFloat? s with
    | some x => .ok (.real x)
    | none => .error (.badValue none)

def readWhole (vars : Variables) (name : String) (default : Number) : Except Breakdown Number :=
  match value? vars name with
  | none => .ok default
  | some s =>
    match readInt? s with
    | some n => .ok (.whole n)
    | none => .error (.badValue none)

/-- A directory in its plain form: without empty parts and without parts that stay in place.  Two
slashes at the start are kept. -/
def plainDirectory (s : String) : String :=
  let parts := (pieces '/' s).filter fun part => part != "" && part != "."
  let slashes := (s.toList.takeWhile (· == '/')).length
  let root := if slashes = 0 then "" else if slashes = 2 then "//" else "/"
  let plain := root ++ "/".intercalate parts
  if plain = "" then "." else plain

def ofVariables (vars : Variables) : Except Breakdown Settings := do
  let base : Settings := {}
  let debug := isOn vars "DEBUG"
  let requestTimeout ← readReal vars "SEARCH_REQUEST_TIMEOUT" base.requestTimeout
  let limitTimeout ← readReal vars "RATE_LIMIT_ACQUIRE_TIMEOUT" base.limitTimeout
  let maxRetries ← readWhole vars "MAX_RETRIES" base.maxRetries
  let retryBaseDelay ← readReal vars "RETRY_BASE_DELAY" base.retryBaseDelay
  let retryGrowth ← readReal vars "RETRY_EXPONENTIAL_BASE" base.retryGrowth
  return {
    debug := debug
    logLevel := upper ((value? vars "LOG_LEVEL").getD (if debug then "DEBUG" else "INFO"))
    logJson := isOn vars "LOG_JSON"
    definitions := (value? vars "DEFINITIONS_DIR").map plainDirectory
    requestTimeout := requestTimeout
    userAgent := (value? vars "DEFAULT_USER_AGENT").getD base.userAgent
    limitTimeout := limitTimeout
    maxRetries := maxRetries
    retryBaseDelay := retryBaseDelay
    retryGrowth := retryGrowth }

/-- Sets a number by its name; other names change nothing. -/
def set (s : Settings) (name : String) (n : Number) : Settings :=
  match name with
  | "SEARCH_REQUEST_TIMEOUT" => { s with requestTimeout := n }
  | "RATE_LIMIT_ACQUIRE_TIMEOUT" => { s with limitTimeout := n }
  | "MAX_RETRIES" => { s with maxRetries := n }
  | "RETRY_BASE_DELAY" => { s with retryBaseDelay := n }
  | "RETRY_EXPONENTIAL_BASE" => { s with retryGrowth := n }
  | _ => s

/-- Whether a search can work with the settings. -/
def isValid (s : Settings) : Bool :=
  let zero : Number := .whole 0
  let timeout := s.requestTimeout.compare? zero
  !(timeout == some .lt || timeout == some .eq || s.limitTimeout.less zero ||
    s.maxRetries.less zero)

def summary (s : Settings) : Data :=
  .object [("app_version", .text version), ("debug", .bool s.debug),
    ("log_level", .text s.logLevel), ("log_json", .bool s.logJson),
    ("definitions_dir", .text (s.definitions.getD defaultDirectory)),
    ("search_request_timeout", .ofNumber s.requestTimeout),
    ("rate_limit_acquire_timeout", .ofNumber s.limitTimeout),
    ("max_retries", .ofNumber s.maxRetries),
    ("retry_base_delay", .ofNumber s.retryBaseDelay),
    ("retry_exponential_base", .ofNumber s.retryGrowth)]

end Settings

end ReleaseSearch
