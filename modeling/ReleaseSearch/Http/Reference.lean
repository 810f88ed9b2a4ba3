import ReleaseSearch.Http.Address

/-!
# References

The place to which a response redirects may be written relative to the address of the request.
-/

namespace ReleaseSearch.Http

open Text

/-- The parts of a reference; what is missing is empty. -/
structure Reference where
  scheme : List Char := []
  authority : List Char := []
  path : List Char := []
  /-- The parameters of the last step of the path. -/
  parameters : List Char := []
  query : List Char := []
  fragment : List Char := []

namespace Reference

def relativeSchemes : List String :=
  ["", "ftp", "http", "gopher", "nntp", "imap", "wais", "file", "https", "shttp", "mms",
    "prospero", "rtsp", "rtspu", "sftp", "svn", "svn+ssh", "ws", "wss"]

def parameterSchemes : List String :=
  ["", "ftp", "hdl", "prospero", "http", "https", "shttp", "rtsp", "rtspu", "sip", "sips", "mms",
    "sftp", "tel"]

/-- Splits the parameters off the last step of a path. -/
def splitParameters (path : List Char) : List Char × List Char :=
  let last := (path.reverse.takeWhile (· != '/')).reverse
  match cut? ';' last with
  | some (before, parameters) => (path.take (path.length - last.length) ++ before, parameters)
  | none => (path, [])

/-- Reads a reference; `scheme` counts if none is written. -/
def read (scheme cs : List Char) : Reference :=
  let parts := Parts.split cs
  let scheme := if parts.scheme.isEmpty then scheme else parts.scheme.map asciiLowerChar
  let (path, parameters) :=
    if parameterSchemes.contains (String.ofList scheme) then splitParameters parts.path
    else (parts.path, [])
  ⟨scheme, parts.authority, path, parameters, parts.query.getD [], parts.fragment.getD []⟩

/-- The text of a reference; empty parts are left out. -/
def text (r : Reference) : List Char :=
  let after (mark : List Char) (part : List Char) : List Char :=
    if part.isEmpty then [] else mark ++ part
  let path := r.path ++ after [';'] r.parameters
  let placed :=
    if !r.authority.isEmpty ||
        (!r.scheme.isEmpty && relativeSchemes.contains (String.ofList r.scheme))
        || path.take 2 == ['/', '/'] then
      let rooted := if path.isEmpty || path.head? == some '/' then path else '/' :: path
      '/' :: '/' :: r.authority ++ rooted
    else path
  (if r.scheme.isEmpty then [] else r.scheme ++ [':']) ++ placed ++ after ['?'] r.query
    ++ after ['#'] r.fragment

/-- Takes one step of a path; the steps that were taken are in reverse order. -/
def takeStep (taken : List (List Char)) (step : List Char) : List (List Char) :=
  if step = ['.', '.'] then taken.drop 1
  else if step = ['.'] then taken
  else step :: taken

/-- The path that a path leads to, seen from another one. -/
def resolvePath (base path : List Char) : List Char :=
  let steps :=
    if path.head? == some '/' then splitOn '/' path
    else
      let start := splitOn '/' base
      let start := if start.getLast? == some [] then start else start.dropLast
      let all := start ++ splitOn '/' path
      all.take 1 ++ ((all.drop 1).dropLast.filter (!·.isEmpty))
        ++ (if all.length > 1 then all.drop (all.length - 1) else [])
  let taken := (steps.foldl takeStep []).reverse
  let stays := steps.getLast? == some ['.'] || steps.getLast? == some ['.', '.']
  let path := List.intercalate ['/'] (if stays then taken ++ [[]] else taken)
  if path.isEmpty then ['/'] else path

/-- The text of the address that a reference leads to, seen from another address. -/
def resolve (base reference : List Char) : List Char :=
  if base.isEmpty then reference
  else if reference.isEmpty then base
  else
    let b := read [] base
    let r := read b.scheme reference
    if r.scheme ≠ b.scheme ∨ !relativeSchemes.contains (String.ofList r.scheme) then reference
    else if !r.authority.isEmpty then r.text
    else if r.path.isEmpty && r.parameters.isEmpty then
      { r with
        authority := b.authority
        path := b.path
        parameters := b.parameters
        query := if r.query.isEmpty then b.query else r.query }.text
    else { r with authority := b.authority, path := resolvePath b.path r.path }.text

end Reference

end ReleaseSearch.Http
