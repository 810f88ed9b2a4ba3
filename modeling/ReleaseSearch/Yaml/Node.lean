import ReleaseSearch.Yaml.Token
import ReleaseSearch.Yaml.Scalar

/-!
# Nodes of a document

`Node.ofTokens` arranges tokens into a tree of scalars, sequences and mappings, each with its
kind.  An alias stands for a copy of the node with that anchor.
-/

namespace ReleaseSearch.Yaml

/-- A node: a scalar, a sequence or a mapping, with the full name of its kind. -/
inductive Node where
  | scalar (kind text : String)
  | sequence (kind : String) (items : List Node)
  | mapping (kind : String) (entries : List (Node × Node))
  deriving Inhabited

def Node.kind : Node → String
  | .scalar kind _ | .sequence kind _ | .mapping kind _ => kind

/-- The node that stands where nothing is written. -/
def Node.nothing : Node := .scalar (kindOf "") ""

/-- The anchors seen so far; a node that is still being read has none yet. -/
abbrev Anchors := List (String × Option Node)

/-- What is left to read: tokens and the anchors seen so far. -/
structure Reading where
  tokens : List Token
  anchors : Anchors := []

/-- Whether the next token is one of those given; the end of the document is none of them. -/
def Reading.sees (r : Reading) (ts : List Token) : Bool :=
  match r.tokens with
  | t :: _ => ts.contains t
  | [] => false

def Reading.skip (r : Reading) : Reading := { r with tokens := r.tokens.drop 1 }

/-- The anchor and tag in front of a node. -/
structure Marks where
  anchor : Option String := none
  tag : Option String := none

def fullTag? (handles : List (String × String)) (handle : Option String) (suffix : String) :
    Option String :=
  match handle with
  | none => some suffix
  | some handle => (handles.find? (·.1 == handle)).map fun h => h.2 ++ suffix

/-- Reads the anchor and tag in front of a node, in either order. -/
def marks? (handles : List (String × String)) : List Token → Option (Marks × List Token)
  | .anchor a :: .tag h s :: rest =>
    (fullTag? handles h s).map fun tag => (⟨some a, some tag⟩, rest)
  | .anchor a :: rest => some (⟨some a, none⟩, rest)
  | .tag h s :: .anchor a :: rest =>
    (fullTag? handles h s).map fun tag => (⟨some a, some tag⟩, rest)
  | .tag h s :: rest => (fullTag? handles h s).map fun tag => (⟨none, some tag⟩, rest)
  | rest => some ({}, rest)

/-- The tag of a node, unless it leaves the kind open. -/
def Marks.fixed (m : Marks) : Option String := m.tag.filter (· != "!")

def Marks.scalar (m : Marks) (plain : Bool) (text : String) : Node :=
  match m.fixed with
  | some kind => .scalar kind text
  | none =>
    if plain || m.tag.isSome then .scalar (kindOf text) text else .scalar (standard ++ "str") text

/-- Notes the anchor of a node that starts here; it must be new. -/
def Reading.open? (r : Reading) (m : Marks) : Option Reading :=
  match m.anchor with
  | none => some r
  | some a =>
    if r.anchors.any (·.1 == a) then none else some { r with anchors := (a, none) :: r.anchors }

/-- Notes the node that an anchor stands for. -/
def Reading.close (r : Reading) (m : Marks) (node : Node) : Node × Reading :=
  match m.anchor with
  | none => (node, r)
  | some a =>
    (node, { r with
      anchors := r.anchors.map fun entry => if entry.1 == a then (a, some node) else entry })

/-- Where a node stands: which collections may start there. -/
inductive Setting where
  | flow
  | block
  | blockValue
  deriving DecidableEq

mutual

def node? (handles : List (String × String)) :
    Nat → Setting → Reading → Option (Node × Reading)
  | 0, _, _ => none
  | fuel + 1, setting, r =>
    match r.tokens with
    | .alias name :: rest =>
      match r.anchors.find? (·.1 == name) with
      | some (_, some node) => some (node, { r with tokens := rest })
      | _ => none
    | tokens => do
      let (m, rest) ← marks? handles tokens
      let r ← Reading.open? { r with tokens := rest } m
      let isBlock := setting != .flow
      match rest with
      | .scalar plain text :: _ =>
        return r.skip.close m (m.scalar (plain && m.tag.isNone) text)
      | .flowSequenceStart :: _ =>
        let (items, r) ← flowItems? handles fuel true r.skip
        return r.close m (.sequence (m.fixed.getD (standard ++ "seq")) items)
      | .flowMappingStart :: _ =>
        let (entries, r) ← flowEntries? handles fuel true r.skip
        return r.close m (.mapping (m.fixed.getD (standard ++ "map")) entries)
      | .blockEntry :: _ =>
        if setting == .blockValue then
          let (items, r) ← looseItems? handles fuel r
          return r.close m (.sequence (m.fixed.getD (standard ++ "seq")) items)
        else if m.anchor.isSome || m.tag.isSome then return r.close m (m.scalar true "")
        else none
      | t :: _ =>
        if t == .sequenceStart && isBlock then
          let (items, r) ← blockItems? handles fuel r.skip
          return r.close m (.sequence (m.fixed.getD (standard ++ "seq")) items)
        else if t == .mappingStart && isBlock then
          let (entries, r) ← blockEntries? handles fuel r.skip
          return r.close m (.mapping (m.fixed.getD (standard ++ "map")) entries)
        else if m.anchor.isSome || m.tag.isSome then return r.close m (m.scalar true "")
        else none
      | [] => if m.anchor.isSome || m.tag.isSome then return r.close m (m.scalar true "") else none

def blockItems? (handles : List (String × String)) : Nat → Reading → Option (List Node × Reading)
  | 0, _ => none
  | fuel + 1, r =>
    if r.sees [.blockEnd] then some ([], r.skip)
    else if r.sees [.blockEntry] then do
      let (item, r) ←
        if r.skip.sees [.blockEntry, .blockEnd] then some (Node.nothing, r.skip)
        else node? handles fuel .block r.skip
      let (more, r) ← blockItems? handles fuel r
      return (item :: more, r)
    else none

/-- Reads the items of a list that is indented no further than its key. -/
def looseItems? (handles : List (String × String)) : Nat → Reading → Option (List Node × Reading)
  | 0, _ => none
  | fuel + 1, r =>
    if r.sees [.blockEntry] then do
      let (item, r) ←
        if r.skip.sees [.blockEntry, .key, .value, .blockEnd] then some (Node.nothing, r.skip)
        else node? handles fuel .block r.skip
      let (more, r) ← looseItems? handles fuel r
      return (item :: more, r)
    else some ([], r)

/-- Reads the entries of an indented mapping and its end. -/
def blockEntries? (handles : List (String × String)) :
    Nat → Reading → Option (List (Node × Node) × Reading)
  | 0, _ => none
  | fuel + 1, r =>
    let part (r : Reading) : Option (Node × Reading) :=
      if r.sees [.key, .value, .blockEnd] then some (Node.nothing, r)
      else node? handles fuel .blockValue r
    if r.sees [.blockEnd] then some ([], r.skip)
    else if r.sees [.key] then do
      let (key, r) ← part r.skip
      let (value, r) ← if r.sees [.value] then part r.skip else some (Node.nothing, r)
      let (more, r) ← blockEntries? handles fuel r
      return ((key, value) :: more, r)
    else none

/-- Reads the items of a list in brackets and its end; an item may be a single entry of a
mapping. -/
def flowItems? (handles : List (String × String)) :
    Nat → Bool → Reading → Option (List Node × Reading)
  | 0, _, _ => none
  | fuel + 1, first, r =>
    if r.sees [.flowSequenceEnd] then some ([], r.skip)
    else do
      let r ← if first then some r else if r.sees [.flowEntry] then some r.skip else none
      if r.sees [.flowSequenceEnd] then return ([], r.skip)
      else if r.sees [.key] then
        let r := r.skip
        let (key, r) ←
          if r.sees [.value, .flowEntry, .flowSequenceEnd] then some (Node.nothing, r)
          else node? handles fuel .flow r
        let (value, r) ←
          if r.sees [.value] then
            if r.skip.sees [.flowEntry, .flowSequenceEnd] then some (Node.nothing, r.skip)
            else node? handles fuel .flow r.skip
          else some (Node.nothing, r)
        let (more, r) ← flowItems? handles fuel false r
        return (.mapping (standard ++ "map") [(key, value)] :: more, r)
      else
        let (item, r) ← node? handles fuel .flow r
        let (more, r) ← flowItems? handles fuel false r
        return (item :: more, r)

/-- Reads the entries of a mapping in braces and its end. -/
def flowEntries? (handles : List (String × String)) :
    Nat → Bool → Reading → Option (List (Node × Node) × Reading)
  | 0, _, _ => none
  | fuel + 1, first, r =>
    if r.sees [.flowMappingEnd] then some ([], r.skip)
    else do
      let r ← if first then some r else if r.sees [.flowEntry] then some r.skip else none
      if r.sees [.flowMappingEnd] then return ([], r.skip)
      else if r.sees [.key] then
        let r := r.skip
        let (key, r) ←
          if r.sees [.value, .flowEntry, .flowMappingEnd] then some (Node.nothing, r)
          else node? handles fuel .flow r
        let (value, r) ←
          if r.sees [.value] then
            if r.skip.sees [.flowEntry, .flowMappingEnd] then some (Node.nothing, r.skip)
            else node? handles fuel .flow r.skip
          else some (Node.nothing, r)
        let (more, r) ← flowEntries? handles fuel false r
        return ((key, value) :: more, r)
      else
        let (key, r) ← node? handles fuel .flow r
        let (more, r) ← flowEntries? handles fuel false r
        return ((key, Node.nothing) :: more, r)

end

/-! ## Documents -/

def usualHandles : List (String × String) := [("!", "!"), ("!!", standard)]

/-- Reads the directives of a document; answers the handles of its tags. -/
def directives? : List (String × String) → Bool → List Token →
    Option (List (String × String) × List Token)
  | handles, seen, .version major :: rest =>
    if seen || major != 1 then none else directives? handles true rest
  | handles, seen, .handle name start :: rest =>
    if handles.any (·.1 == name) then none else directives? ((name, start) :: handles) seen rest
  | handles, seen, .directive :: rest => directives? handles seen rest
  | handles, _, rest => some (handles ++ usualHandles, rest)

/-- Reads the content of a document and the marks that end it; nothing may follow. -/
def content? (handles : List (String × String)) (explicit : Bool) (tokens : List Token) :
    Option (Option Node) := do
  let ends : Bool :=
    match tokens with
    | [] => true
    | .documentStart :: _ | .documentEnd :: _ | .directive :: _ | .version _ :: _
    | .handle .. :: _ => true
    | _ => false
  let (node, r) ←
    if explicit && ends then some (Node.nothing, ⟨tokens, []⟩)
    else node? handles (2 * tokens.length + 2) .block ⟨tokens, []⟩
  if (r.tokens.dropWhile (· == .documentEnd)).isEmpty then return some node else none

/-- Arranges the tokens of a single document into a tree; an empty text has none. -/
def Node.ofTokens (tokens : List Token) : Option (Option Node) :=
  match tokens with
  | [] => some none
  | .documentStart :: _ | .directive :: _ | .version _ :: _ | .handle .. :: _ => do
    let (handles, rest) ← directives? [] false tokens
    match rest with
    | .documentStart :: rest => content? handles true rest
    | _ => none
  | _ => content? usualHandles false tokens

end ReleaseSearch.Yaml
