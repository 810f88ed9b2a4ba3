import ReleaseSearch.Definition.Basic
import ReleaseSearch.Http.Address
import ReleaseSearch.Text.Charset

/-!
# Requests and responses
-/

namespace ReleaseSearch.Http

open Text Decimal

/-- The headers of a message, in order. -/
abbrev Headers := List (String × String)

namespace Headers

def plainName (name : String) : String := String.ofList (name.toList.map asciiLowerChar)

/-- The value of a header; several values are put together. -/
def get? (hs : Headers) (name : String) : Option String :=
  match hs.filter (plainName ·.1 == plainName name) with
  | [] => none
  | found => some (", ".intercalate (found.map (·.2)))

def without (hs : Headers) (name : String) : Headers :=
  hs.filter (plainName ·.1 != plainName name)

/-- Gives the first header of a name a value and drops the others of that name. -/
def replaceFirst (name value : String) : Headers → Headers
  | [] => []
  | h :: rest =>
    if plainName h.1 == plainName name then (h.1, value) :: Headers.without rest name
    else h :: replaceFirst name value rest

def areAscii (hs : Headers) : Bool :=
  hs.all fun h => h.1.toList.all (·.toNat < 128) && h.2.toList.all (·.toNat < 128)

end Headers

/-! ## Forms -/

namespace Form

def valueText : Data → String
  | .bool b => if b then "true" else "false"
  | .null => ""
  | value => value.display

/-- The fields of a form; a list stands for several fields of one name. -/
def fields (inputs : List (String × Data)) : List (String × String) :=
  inputs.flatMap fun input =>
    match input.2 with
    | .list items => items.map fun item => (input.1, valueText item)
    | value => [(input.1, valueText value)]

def encode (fields : List (String × String)) : String :=
  "&".intercalate (fields.map fun f => Percent.encodeField f.1 ++ "=" ++ Percent.encodeField f.2)

end Form

/-! ## Requests -/

structure Request where
  method : Method
  address : Address
  headers : Headers := []
  body : String := ""

/-- Why there is no response. -/
inductive FaultKind where
  | timeout
  /-- The other side could not be reached or could not be understood. -/
  | transport
  /-- The request could not be made, or there was no end to it. -/
  | exchange
  /-- The transport itself reports a failure of the search. -/
  | failure (f : Failure)
  | unexpected

/-- The fault that there is instead of a response. -/
structure Fault where
  kind : FaultKind
  /-- What the transport says about it. -/
  message : Option String := none

/-- The request for an address with inputs: they are the body of a `post`, and otherwise take the
place of the query. -/
def Request.make (method : Method) (url : String) (inputs : List (String × Data))
    (headers : Headers) : Except Fault Request := do
  let invalid : Fault := { kind := .exchange }
  let address ← ((Address.read? url.toList).bind Address.target?).elim (.error invalid) .ok
  if !headers.areAscii then throw { kind := .unexpected }
  let headers := headers.map fun h => (Headers.plainName h.1, h.2)
  let form := Form.encode (Form.fields inputs)
  match method with
  | .post => return { method, address, headers, body := form }
  | .get =>
    if inputs.isEmpty then return { method, address, headers }
    else
      let address ← (address.withQuery? form.toList).elim (.error invalid) .ok
      return { method, address, headers }

/-! ## Responses -/

structure Response where
  status : Int := 200
  headers : Headers := []
  body : List UInt8 := []

namespace Response

/-- Splits a text at semicolons that are not inside quotes. -/
def splitParameters (isQuoted : Bool) (piece : List Char) : List Char → List (List Char)
  | [] => [piece.reverse]
  | '"' :: cs => splitParameters (!isQuoted) ('"' :: piece) cs
  | ';' :: cs =>
    if isQuoted then splitParameters isQuoted (';' :: piece) cs
    else piece.reverse :: splitParameters isQuoted [] cs
  | c :: cs => splitParameters isQuoted (c :: piece) cs

def unquote (s : String) : String :=
  match s.toList with
  | '"' :: rest =>
    if rest.getLast? = some '"' then
      replace "\\\"" "\"" (replace "\\\\" "\\" (String.ofList rest.dropLast))
    else s
  | '<' :: rest => if rest.getLast? = some '>' then String.ofList rest.dropLast else s
  | _ => s

def parameter? (name header : String) : Option String :=
  (splitParameters false [] header.toList).findSome? fun piece =>
    match cut? '=' piece with
    | some (key, value) =>
      if lower (strip (String.ofList key)) == name then
        some (unquote (strip (String.ofList value)))
      else none
    | none => none

/-- The charset of the body: the one that is named, or else UTF-8. -/
def charset (r : Response) : Charset :=
  let named := do
    let name ← parameter? "charset" (← r.headers.get? "Content-Type")
    if name.toList.all (·.toNat < 128) then Charset.named? name else none
  named.getD (.utf8 false)

def text (r : Response) : String := String.ofList (r.charset.decodeLossy r.body)

/-- The delay that a text asks for: a number of seconds, at least zero. -/
def readDelay? (s : String) : Option Float :=
  if s = "" then none
  else (readFloat? s).map fun x => if x > 0 then x else 0

def retryAfter? (r : Response) : Option Float := (r.headers.get? "Retry-After").bind readDelay?

/-- The start of the text, if there is a body. -/
def excerpt? (r : Response) : Option String :=
  if r.body.isEmpty then none else some (take 500 r.text)

def location? (r : Response) : Option String :=
  if [301, 302, 303, 307, 308].contains r.status then r.headers.get? "Location" else none

end Response

end ReleaseSearch.Http
