import ReleaseSearch.Http.Message

/-!
# Cookies that responses set

A response can set cookies; the later requests of the same exchange carry those that belong to
their host and path.  A cookie that names no domain belongs to the host that set it and to what lies
below it.
-/

namespace ReleaseSearch.Http

open Text Decimal

structure Cookie where
  name : String
  value : Option String
  /-- The domain; it begins with a dot if the response named it. -/
  domain : List Char
  path : List Char
  isSecure : Bool := false
  deriving DecidableEq

namespace Cookie

/-- The host of an address; a host of one label is taken to be a local one. -/
def hostOf (a : Address) : List Char :=
  if a.host.contains '.' || a.host.contains ':' then a.host else a.host ++ ".local".toList

def pathOf (a : Address) : List Char := if a.path.isEmpty then ['/'] else a.path

def directory (path : List Char) : List Char :=
  let last := (path.reverse.takeWhile (· != '/')).length
  let kept := path.take (path.length - last - 1)
  if kept.isEmpty then ['/'] else kept

abbrev Attribute := String × Option String

def readPair (cs : List Char) : Attribute :=
  let trimmed (cs : List Char) : String := strip (String.ofList cs)
  match cut? '=' cs with
  | some (name, value) => (trimmed name, some (trimmed value))
  | none => (trimmed cs, none)

def attribute? (attributes : List Attribute) (name : String) : Option (Option String) :=
  (attributes.find? fun a => lower a.1 == name).map (·.2)

/-- Whether a cookie is to be forgotten. -/
def isExpired (attributes : List Attribute) : Bool :=
  (attribute? attributes "max-age").any fun age => (age.bind readInt?).any (· ≤ 0)

/-- Whether the attributes of a cookie can be understood. -/
def isSound (attributes : List Attribute) : Bool :=
  attribute? attributes "domain" != some none && attribute? attributes "path" != some none
    && (attribute? attributes "max-age").all fun age => (age.bind readInt?).isSome

/-- Whether a host lies in a domain that begins with a dot. -/
def isWithin (host domain : List Char) : Bool := domain.isSuffixOf ('.' :: host)

/-- Whether a response from a host may set cookies for a domain. -/
def mayName (host domain : List Char) : Bool :=
  ((domain.drop 1).contains '.' || ".local".toList.isSuffixOf host) && isWithin host domain

/-- The cookie that a header asks for, and whether it is to be forgotten. -/
def read? (a : Address) (header : String) : Option (Cookie × Bool) :=
  match (splitOn ';' header.toList).map readPair with
  | [] => none
  | (name, value) :: attributes =>
    let host := hostOf a
    let path := match attribute? attributes "path" with
      | some (some p) => if p = "" then directory (pathOf a) else p.toList
      | _ => directory (pathOf a)
    let domain? := (attribute? attributes "domain").join.map fun d =>
      if d.startsWith "." then (lower d).toList else '.' :: (lower d).toList
    if name = "" || !isSound attributes || !domain?.all (mayName host) then none
    else
      some ({ name, value, domain := domain?.getD host, path,
              isSecure := (attribute? attributes "secure").isSome },
        isExpired attributes)

/-- Keeps a cookie in place of one of the same name, domain and path. -/
def keep (cookies : List Cookie) (c : Cookie) : List Cookie :=
  let isSame (other : Cookie) : Bool :=
    other.name == c.name && other.domain == c.domain && other.path == c.path
  if cookies.any isSame then cookies.map fun other => if isSame other then c else other
  else cookies ++ [c]

/-- The cookies after a response to a request for an address. -/
def afterResponse (a : Address) (r : Response) (cookies : List Cookie) : List Cookie :=
  (r.headers.filter (Headers.plainName ·.1 == "set-cookie")).foldl
    (fun cookies h =>
      match read? a h.2 with
      | some (c, false) => keep cookies c
      | some (c, true) =>
        cookies.filter fun other =>
          !(other.name == c.name && other.domain == c.domain && other.path == c.path)
      | none => cookies)
    cookies

def belongsTo (c : Cookie) (a : Address) : Bool :=
  let domain := if c.domain.head? == some '.' then c.domain else '.' :: c.domain
  let path := pathOf a
  let isBelow := c.path == path
    || (c.path.isPrefixOf path
      && (c.path.getLast? == some '/' || (path.drop c.path.length).head? == some '/'))
  isWithin (hostOf a) domain && isBelow
    && (!c.isSecure || a.scheme == "https".toList || a.scheme == "wss".toList)

def text (c : Cookie) : String :=
  match c.value with
  | some value => c.name ++ "=" ++ value
  | none => c.name

/-- The header for the cookies that belong to an address, the longest path first. -/
def header (cookies : List Cookie) (a : Address) : Headers :=
  match (cookies.filter (·.belongsTo a)).mergeSort fun c d => d.path.length ≤ c.path.length with
  | [] => []
  | found => [("cookie", "; ".intercalate (found.map text))]

end Cookie

end ReleaseSearch.Http
