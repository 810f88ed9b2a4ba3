import ReleaseSearch.Http.Host

/-!
# Addresses

The address of a request has up to seven parts.  Reading an address brings each part into its plain
form: what may not stand for itself is encoded, the usual service number is left out, and steps
within the path are taken.
-/

namespace ReleaseSearch.Http

open Text Decimal

/-- The parts of an address as they are written. -/
structure Parts where
  scheme : List Char := []
  authority : List Char := []
  path : List Char := []
  query : Option (List Char) := none
  fragment : Option (List Char) := none

namespace Parts

def isSchemeChar (c : Char) : Bool :=
  Percent.isAsciiLetter c || isAsciiDigit c || c == '+' || c == '.' || c == '-'

/-- Splits off the scheme, which may be empty; a colon ends it. -/
def splitScheme (cs : List Char) : List Char × List Char :=
  let name := match cs with
    | c :: _ => if Percent.isAsciiLetter c then cs.takeWhile isSchemeChar else []
    | [] => []
  match cs.drop name.length with
  | ':' :: rest => (name, rest)
  | _ => ([], cs)

/-- Splits off what comes before a character; `none` if there is no such character. -/
def splitAtFirst (sep : Char) (cs : List Char) : List Char × Option (List Char) :=
  match cut? sep cs with
  | some (before, rest) => (before, some rest)
  | none => (cs, none)

def split (cs : List Char) : Parts :=
  let (scheme, rest) := splitScheme cs
  let (rest, fragment) := splitAtFirst '#' rest
  let (rest, query) := splitAtFirst '?' rest
  let (authority, path) :=
    match rest with
    | '/' :: '/' :: more => (more.takeWhile (· != '/'), more.dropWhile (· != '/'))
    | _ => ([], rest)
  ⟨scheme, authority, path, query, fragment⟩

end Parts

/-- An address in its plain form. -/
structure Address where
  scheme : List Char := []
  /-- The name and the password of a user. -/
  userinfo : List Char := []
  host : List Char := []
  service : Option Int := none
  path : List Char := []
  query : Option (List Char) := none
  fragment : Option (List Char) := none
  deriving DecidableEq

namespace Address

/-! ## The parts in their plain form -/

def lengthLimit : Nat := 65536

/-- Whether a text may be read as an address or as a part of one. -/
def isClean (cs : List Char) : Bool :=
  cs.length ≤ lengthLimit && cs.all fun c => 32 ≤ c.toNat && c.toNat != 127

/-- Whether a character stands for itself in a part in which some characters do not. -/
def isSafeBut (others : String) (c : Char) : Bool :=
  32 < c.toNat && c.toNat < 127 && !others.toList.contains c

/-- Whether a character stands for itself in a path. -/
def isPathSafe : Char → Bool := isSafeBut "\"#<>?`\x7b\x7d"

/-- Whether a character stands for itself in a query. -/
def isQuerySafe : Char → Bool := isSafeBut "\"#<>"

/-- Whether a character stands for itself in a fragment. -/
def isFragmentSafe : Char → Bool := isSafeBut "\"<>`"

/-- Whether a character stands for itself in the name and password of a user. -/
def isUserSafe : Char → Bool := isSafeBut "\"#<>?`\x7b\x7d/;=@[\\]^|"

/-- The service number of a scheme, which need not be written. -/
def defaultService? (scheme : List Char) : Option Int :=
  match String.ofList scheme with
  | "ftp" => some 21
  | "http" | "ws" => some 80
  | "https" | "wss" => some 443
  | _ => none

/-- The service number that a text gives; the outer `none` means that the text is no number. -/
def readService? (scheme cs : List Char) : Option (Option Int) :=
  if cs.isEmpty then some none
  else do
    let service ← readInt? (String.ofList cs)
    return if some service = defaultService? scheme then none else some service

/-- Takes one step of a path; the steps that were taken are in reverse order. -/
def takeStep (taken : List (List Char)) (step : List Char) : List (List Char) :=
  if step = ['.'] then taken
  else if step = ['.', '.'] then
    match taken with
    | [] => []
    | [[]] => [[]]
    | _ :: before => before
  else step :: taken

/-- Takes the steps of a path that stay or lead back. -/
def walk (path : List Char) : List Char :=
  let steps := splitOn '/' path
  if steps.any fun step => step = ['.'] ∨ step = ['.', '.'] then
    List.intercalate ['/'] (steps.foldl takeStep []).reverse
  else path

/-- The user, the host and the service number of an authority. -/
def splitAuthority (cs : List Char) : List Char × List Char × List Char :=
  let (userinfo, place) :=
    if cs.contains '@' then
      let place := (cs.reverse.takeWhile (· != '@')).reverse
      (cs.take (cs.length - place.length - 1), place)
    else ([], cs)
  let host :=
    if place.head? = some '[' ∧ place.contains ']' then
      place.take (place.length - (place.reverse.takeWhile (· != ']')).length)
    else place.takeWhile (· != ':')
  let rest := place.drop host.length
  (userinfo, host, if rest.head? = some ':' then rest.drop 1 else rest)

/-- Whether a path may follow what comes before it. -/
def isPathAllowed (hasScheme hasAuthority : Bool) (path : List Char) : Bool :=
  if hasAuthority then path.isEmpty || path.head? = some '/'
  else if hasScheme then true
  else path.take 2 != ['/', '/'] && path.head? != some ':'

/-- The address that parts make, where the host may be given apart. -/
def ofParts? (p : Parts) (host : Option (List Char) := none) : Option Address := do
  let (userinfo, ownHost, service) := splitAuthority p.authority
  let host ← Host.read? (host.getD ownHost)
  let service ← readService? p.scheme service
  let userinfo := Percent.encodeWith isUserSafe userinfo
  let hasScheme := !p.scheme.isEmpty
  let hasAuthority := !userinfo.isEmpty || !host.isEmpty || service.isSome
  if !isPathAllowed hasScheme hasAuthority p.path then none
  else
    let path := if hasScheme || hasAuthority then walk p.path else p.path
    some {
      scheme := p.scheme.map asciiLowerChar
      userinfo := userinfo
      host := host
      service := service
      path := Percent.encodeWith isPathSafe path
      query := p.query.map (Percent.encodeWith isQuerySafe)
      fragment := p.fragment.map (Percent.encodeWith isFragmentSafe) }

/-- Reads an address; `none` if it is invalid. -/
def read? (cs : List Char) : Option Address :=
  if isClean cs then ofParts? (Parts.split cs) else none

/-! ## Writing -/

def place (a : Address) : List Char :=
  (if a.host.contains ':' then '[' :: a.host ++ [']'] else a.host)
    ++ (match a.service with
      | some service => ':' :: (intText service).toList
      | none => [])

/-- The user, the host and the service number. -/
def authority (a : Address) : List Char :=
  (if a.userinfo.isEmpty then [] else a.userinfo ++ ['@']) ++ a.place

def parts (a : Address) : Parts := ⟨a.scheme, a.authority, a.path, a.query, a.fragment⟩

def text (a : Address) : List Char :=
  let authority := a.authority
  (if a.scheme.isEmpty then [] else a.scheme ++ [':'])
    ++ (if authority.isEmpty then [] else '/' :: '/' :: authority)
    ++ a.path
    ++ ((a.query.map ('?' :: ·)).getD [])
    ++ ((a.fragment.map ('#' :: ·)).getD [])

/-! ## Changing parts -/

/-- The address that changed parts make; `none` if a part is invalid. -/
def rebuild? (p : Parts) (host : Option (List Char) := none) : Option Address :=
  let all := [p.scheme, p.authority, p.path, p.query.getD [], p.fragment.getD []]
  if all.all isClean then ofParts? p host else none

def withQuery? (a : Address) (query : List Char) : Option Address :=
  rebuild? { a.parts with query := some query }

def withFragment? (a : Address) (fragment : List Char) : Option Address :=
  rebuild? { a.parts with fragment := some fragment }

def withHost? (a : Address) (host : List Char) : Option Address :=
  rebuild? a.parts (some (if host.contains ':' then '[' :: host ++ [']'] else host))

/-- Whether an address says where it leads on its own. -/
def isAbsolute (a : Address) : Bool := !a.scheme.isEmpty && !a.host.isEmpty

/-- The address that a request goes to: one that is not absolute leads to a place on an unnamed
host, and has no fragment. -/
def target? (a : Address) : Option Address :=
  if a.isAbsolute then some a
  else
    let path := if a.path.isEmpty then ['/'] else a.path
    let whole := path ++ ((a.query.map ('?' :: ·)).getD [])
    let (path, query) := Parts.splitAtFirst '?' ('/' :: whole.dropWhile (· == '/'))
    rebuild? { path := path, query := query }

/-- The service number of an address, whether it is written or not. -/
def effectiveService (a : Address) : Option Int :=
  match a.service with
  | some service => some service
  | none =>
    if a.scheme = "http".toList then some 80
    else if a.scheme = "https".toList then some 443
    else none

/-- Whether two addresses lead to the same place. -/
def sameOrigin (a b : Address) : Bool :=
  a.scheme == b.scheme && a.host == b.host && a.effectiveService == b.effectiveService

/-- Whether the second address is the first one with encryption. -/
def isSecured (a b : Address) : Bool :=
  a.host == b.host && a.scheme == "http".toList && a.effectiveService == some 80
    && b.scheme == "https".toList && b.effectiveService == some 443

end Address

end ReleaseSearch.Http
