import ReleaseSearch.Html.Token

/-!
# Document trees

`Document.ofTokens` arranges tokens into a tree.  An end tag closes the elements opened since the
nearest open element of its name and is ignored if there is none; what is still open at the end
is closed there.  Elements are numbered in the order of their start tags.
-/

namespace ReleaseSearch.Html

open ReleaseSearch.Text

/-- The elements whose text is set apart from the running text of the document. -/
inductive Container where
  | script
  | style
  | template
  | rubyText
  | rubyParenthesis
  deriving DecidableEq, Repr

def Container.named? : String → Option Container
  | "script" => some .script
  | "style" => some .style
  | "template" => some .template
  | "rt" => some .rubyText
  | "rp" => some .rubyParenthesis
  | _ => none

inductive StringKind where
  /-- Text, in the innermost container around it. -/
  | text (container : Option Container)
  /-- Text of a literal section. -/
  | literal
  /-- A comment, declaration or instruction. -/
  | remark
  deriving DecidableEq, Repr

inductive Node where
  | string (kind : StringKind) (signs : List Sign)
  | element (order : Nat) (name : String) (attributes : List (String × String))
      (children : List Node)

/-- An element: its number, name, attributes and children. -/
structure Element where
  order : Nat
  name : String
  attributes : List (String × String)
  children : List Node

def Node.element? : Node → Option Element
  | .element order name attributes children => some ⟨order, name, attributes, children⟩
  | .string .. => none

def voidElements : List String :=
  ["area", "base", "br", "col", "embed", "hr", "img", "input", "keygen", "link", "menuitem",
    "meta", "param", "source", "track", "wbr", "basefont", "bgsound", "command", "frame", "image",
    "isindex", "nextid", "spacer"]

def verbatimElements : List String := ["pre", "textarea"]

/-! ## Building -/

/-- An element that is still open: its children so far, last first. -/
structure OpenElement where
  order : Nat
  name : String
  attributes : List (String × String)
  children : List Node

/-- The state of the tree builder.  `pending` holds the pieces of the string being collected, last
first; it is none when nothing has been said since the last tag. -/
structure Builder where
  count : Nat := 0
  stack : List OpenElement := []
  top : List Node := []
  pending : Option (List (List Sign)) := none
  swallowed : List String := []

namespace Builder

/-- Adds a node at the end of the innermost open element. -/
def add (b : Builder) (node : Node) : Builder :=
  match b.stack with
  | [] => { b with top := node :: b.top }
  | e :: rest => { b with stack := { e with children := node :: e.children } :: rest }

/-- The container around the place that the builder has reached. -/
def container? (b : Builder) : Option Container :=
  b.stack.findSome? fun e => Container.named? e.name

/-- Whether blanks are kept at the place that the builder has reached. -/
def isVerbatim (b : Builder) : Bool := b.stack.any fun e => verbatimElements.contains e.name

/-- Whether `c` is a blank that collapses with its neighbours. -/
def collapses (c : Char) : Bool :=
  c == ' ' || c == '\n' || c == '\t' || c == '\x0c' || c == '\r'

/-- A string that is all blanks becomes one line break, if it has one, or else one space. -/
def collapse (verbatim : Bool) (signs : List Sign) : List Sign :=
  if !verbatim && signs.all (Letter.isA collapses) then
    (if signs.contains (.char '\n') then [.char '\n'] else [.char ' '])
  else signs

/-- Ends the string being collected; it is of the given kind. -/
def endString (b : Builder) (kind : StringKind) : Builder :=
  match b.pending with
  | none => b
  | some pieces =>
    let signs := collapse b.isVerbatim pieces.reverse.flatten
    { b with pending := none }.add (.string kind signs)

def endText (b : Builder) : Builder := b.endString (.text b.container?)

def say (b : Builder) (signs : List Sign) : Builder :=
  { b with pending := some (signs :: b.pending.getD []) }

/-- Collects a piece of a string that is written out. -/
def sayText (b : Builder) (cs : List Char) : Builder := b.say (cs.map .char)

def addString (b : Builder) (kind : StringKind) (cs : List Char) : Builder :=
  (b.endText.sayText cs).endString kind

def close (b : Builder) : Builder :=
  match b.stack with
  | [] => b
  | e :: rest =>
    { b with stack := rest }.add (.element e.order e.name e.attributes e.children.reverse)

/-- Closes elements up to and including the nearest one called `name`. -/
def closeTo (name : String) : List OpenElement → Builder → Builder
  | [], b => b
  | e :: rest, b => if e.name == name then b.close else closeTo name rest b.close

def stop (b : Builder) (name : String) : Builder :=
  let b := b.endText
  if b.stack.any (·.name == name) then closeTo name b.stack b else b

/-- Handles an end tag that was written: one for a void element that has been closed already is
used up without effect. -/
def writtenStop (b : Builder) (name : String) : Builder :=
  if b.swallowed.contains name then { b with swallowed := b.swallowed.erase name }
  else b.stop name

/-- The attributes with each name once; the last value counts, at the first place. -/
def distinct (attributes : List (String × String)) : List (String × String) :=
  attributes.foldl
    (fun kept attr =>
      if kept.any (·.1 == attr.1) then
        kept.map fun old => if old.1 == attr.1 then attr else old
      else kept ++ [attr])
    []

def start (b : Builder) (name : String) (attributes : List (String × String)) : Builder :=
  let b := b.endText
  { b with
    count := b.count + 1
    stack := ⟨b.count + 1, name, distinct attributes, []⟩ :: b.stack }

/-- Handles one token of a document that was read in `charset`. -/
def step (charset : Option Charset) (b : Builder) : Token → Builder
  | .start name attributes true => (b.start name attributes).writtenStop name
  | .start name attributes false =>
    let b := b.start name attributes
    if voidElements.contains name then
      let b := b.stop name
      { b with swallowed := b.swallowed ++ [name] }
    else b
  | .stop name => b.writtenStop name
  | .text cs => b.sayText cs
  | .named name => b.sayText (byName name)
  | .numbered n => b.say (byNumber charset n)
  | .remark _ cs => b.addString .remark cs
  | .literal cs => b.addString .literal cs

/-- Closes whatever is still open. -/
def finish (b : Builder) : List Node :=
  let b := b.endText
  (b.stack.foldl (fun b _ => b.close) b).top.reverse

end Builder

/-- The name of the element that stands for a whole document. -/
def documentName : String := "[document]"

/-- The document made of tokens, as an element that holds its nodes. -/
def Element.ofTokens (charset : Option Charset) (ts : List Token) : Element :=
  ⟨0, documentName, [], (ts.foldl (Builder.step charset) {}).finish⟩

/-- Reads a document that was decoded from `charset`. -/
def Element.read (charset : Option Charset) (cs : List Char) : Except Fault Element :=
  (Token.read cs).map (Element.ofTokens charset)

/-! ## Content -/

mutual

def Node.strings : Node → List (StringKind × List Sign)
  | .string kind signs => [(kind, signs)]
  | .element _ _ _ children => Node.stringsOf children

def Node.stringsOf : List Node → List (StringKind × List Sign)
  | [] => []
  | node :: rest => node.strings ++ Node.stringsOf rest

end

/-- Whether a string belongs to the text of an element that is the given container. -/
def StringKind.isTextOf (container : Option Container) : StringKind → Bool
  | .text c => c == container
  | .literal => container.isNone
  | .remark => false

/-- The text of an element: that of a container is its own, that of another element leaves out
what its containers hold. -/
def Element.text (e : Element) : List Sign :=
  let container := Container.named? e.name
  ((Node.stringsOf e.children).filter fun s => s.1.isTextOf container).flatMap (·.2)

/-- The attributes whose value is a list of words, with the elements that have them; an element
named `*` stands for all. -/
def listAttributes : List (String × List String) :=
  [("class", ["*"]), ("accesskey", ["*"]), ("dropzone", ["*"]), ("rel", ["a", "link", "area"]),
    ("rev", ["a", "link"]), ("headers", ["td", "th"]), ("accept-charset", ["form"]),
    ("archive", ["object"]), ("sizes", ["icon"]), ("sandbox", ["iframe"]), ("for", ["output"])]

/-- Whether the value of an attribute is a list of words. -/
def isListAttribute (element key : String) : Bool :=
  listAttributes.any fun entry =>
    entry.1 == key && (entry.2.contains "*" || entry.2.contains element)

/-- The words of a text, separated by blanks; `word` holds the current one backwards. -/
def wordsFrom (word : List Char) : List Char → List (List Char)
  | [] => if word.isEmpty then [] else [word.reverse]
  | c :: cs =>
    if isBlank c then
      if word.isEmpty then wordsFrom [] cs else word.reverse :: wordsFrom [] cs
    else wordsFrom (c :: word) cs

def words (s : String) : List String := (wordsFrom [] s.toList).map String.ofList

def Element.attributeWords? (e : Element) (key : String) : Option (List String) :=
  (e.attributes.find? (·.1 == key)).map fun attr =>
    if isListAttribute e.name key then words attr.2 else [attr.2]

/-- The value of an attribute; the words of a list are joined by one space. -/
def Element.attribute? (e : Element) (key : String) : Option String :=
  (e.attributeWords? key).map fun ws => " ".intercalate ws

end ReleaseSearch.Html
