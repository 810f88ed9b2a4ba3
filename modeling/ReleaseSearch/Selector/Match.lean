import ReleaseSearch.Selector.Basic
import ReleaseSearch.Selector.Place
import ReleaseSearch.Pattern.Basic

/-!
# Matching selectors

`Test.holds` says whether an element passes a test, and `select` finds the elements inside a place
that pass all tests of one of several selectors.
-/

namespace ReleaseSearch.Selector

open ReleaseSearch.Text ReleaseSearch.Html

/-- The element that a selection starts from, by its number, and the first element of the whole
document. -/
structure Context where
  scope : Nat
  root : Option Nat

/-! ## Text -/

/-- Whether an element shows another document. -/
def isFrame (e : Element) : Bool := lower e.name == "iframe"

def isContent : StringKind → Bool
  | .text _ => true
  | _ => false

mutual

/-- The content strings of a node, without those of frames in it. -/
def contentOf : Node → List (List Sign)
  | .string kind signs => if isContent kind then [signs] else []
  | .element _ name _ children => if lower name == "iframe" then [] else contentOfAll children

def contentOfAll : List Node → List (List Sign)
  | [] => []
  | node :: rest => contentOf node ++ contentOfAll rest

end

def content (e : Element) : List (List Sign) :=
  if isFrame e then [] else contentOfAll e.children

def ownContent (e : Element) : List (List Sign) :=
  if isFrame e then []
  else e.children.filterMap fun
    | .string kind signs => if isContent kind then some signs else none
    | .element .. => none

/-! ## Single tests -/

/-- The value of an attribute, its name compared without case; the words of a list are joined. -/
def attributeValue? (e : Element) (key : String) : Option (List Char) :=
  let wanted := key.toLower
  match e.attributes.find? fun attr => attr.1.toLower == wanted with
  | some attr => (e.attribute? attr.1).map String.toList
  | none => none

def dropText? (ignoreCase : Bool) (word cs : List Char) : Option (List Char) :=
  match word, cs with
  | [], cs => some cs
  | _ :: _, [] => none
  | w :: ws, c :: cs =>
    if Pattern.sameChar { ignoreCase := ignoreCase } w.toNat c then dropText? ignoreCase ws cs
    else none

/-- Whether nothing follows but at most one line break. -/
def atEnd : List Char → Bool
  | [] => true
  | ['\n'] => true
  | _ => false

def separates (c : Char) : Bool :=
  c == ' ' || c == '\t' || c == '\r' || c == '\n' || c == '\x0c'

/-- Whether some place of `cs`, after a character `last`, satisfies `p`. -/
def somewhere (p : Option Char → List Char → Bool) : Option Char → List Char → Bool
  | last, [] => p last []
  | last, c :: cs => p last (c :: cs) || somewhere p (some c) cs

/-- Whether a value compares as asked with the value of an attribute. -/
def Comparison.holds (comparison : Comparison) (ignoreCase : Bool) (word value : List Char) :
    Bool :=
  match comparison with
  | .present => true
  | .equals => ((dropText? ignoreCase word value).map atEnd).getD false
  | .starts => (dropText? ignoreCase word value).isSome
  | .ends =>
    somewhere (fun _ cs => ((dropText? ignoreCase word cs).map atEnd).getD false) none value
  | .contains => somewhere (fun _ cs => (dropText? ignoreCase word cs).isSome) none value
  | .dashed =>
    match dropText? ignoreCase word value with
    | some ('-' :: _) => true
    | some rest => atEnd rest
    | none => false
  | .word =>
    !word.isEmpty && !word.any separates &&
      somewhere
        (fun last cs =>
          (last.map separates).getD true &&
            match dropText? ignoreCase word cs with
            | some [] => true
            | some (c :: _) => separates c
            | none => false)
        none value

/-- Whether a node is something that the first element of a document must not have beside it. -/
def disturbs : Node → Bool
  | .string (.text _) signs => signs.any (!Letter.isA isBlank ·)
  | .string .literal _ => true
  | .string .remark _ => false
  | .element .. => true

/-- Whether a place is that of the first element of a document or of a frame, alone there. -/
def isRoot (ctx : Context) (p : Place) : Bool :=
  (ctx.root == some p.element.order || (p.parent?.map fun q => isFrame q.element).getD false) &&
    !p.before.any disturbs && !p.after.any disturbs

/-- Whether an element holds no elements and nothing but blanks. -/
def isEmpty (e : Element) : Bool :=
  isFrame e ||
    e.children.all fun
      | .string kind signs => !isContent kind || signs.all (Letter.isA separates)
      | .element .. => false

/-- Whether an element is known, going by its name. -/
def isDefined (e : Element) : Bool := !e.name.toList.contains '-' || e.name.toList.contains ':'

/-! ## Languages and directions -/

/-- Compares the parts of a language range after the first with those of a language tag. -/
def rangeHolds : List (List Char) → List (List Char) → Bool
  | [], _ => true
  | _ :: _, [] => false
  | [] :: _, _ :: _ => false
  | r :: rs, s :: ss =>
    if s == r then rangeHolds rs ss
    else if s.length == 1 then false
    else rangeHolds (r :: rs) ss

/-- Whether a language tag lies in a range; a star in the middle of a range stands for nothing. -/
def languageHolds (range tag : String) : Bool :=
  let parts := splitOn '-' (lower range).toList
  let ranges := parts.take 1 ++ (parts.drop 1).filter (· != ['*'])
  match ranges, splitOn '-' (lower tag).toList with
  | [[]], [[]] => true
  | r :: rs, s :: ss =>
    if r == ['*'] then !(ss.isEmpty && s.isEmpty) && rangeHolds rs ss
    else r == s && rangeHolds rs ss
  | _, _ => false

/-- The place itself and the ones around it, up to the document in a frame. -/
def lineage (p : Place) : List Place :=
  p :: p.ancestors.takeWhile fun q => !isFrame q.element

def declaredLanguage? (top : Place) : Option String := do
  let html ← top.children.find? fun p => p.element.name.toLower == "html"
  let head ← html.children.find? fun p => p.element.name.toLower == "head"
  head.children.findSome? fun p => do
    if p.element.name.toLower != "meta" then failure
    let kind ← attributeValue? p.element "http-equiv"
    if (String.ofList kind).toLower != "content-language" then failure
    let value ← attributeValue? p.element "content"
    if value.isEmpty then none else some (String.ofList value)

/-- The language of an element: its own, or that of the nearest element around it that names
one. -/
def language? (p : Place) : Option String :=
  let named := (lineage p).filterMap fun q => attributeValue? q.element "lang"
  match named.find? (!·.isEmpty) with
  | some found => some (String.ofList found)
  | none => if named.isEmpty then declaredLanguage? ((lineage p).getLast?.getD p) else some ""

/-- Whether `c` belongs to a script that is written from right to left. -/
def isRightToLeft (c : Char) : Bool :=
  let n := c.toNat
  isWord c && !isDigit c &&
    ((0x590 ≤ n && n ≤ 0x8ff) || (0xfb1d ≤ n && n ≤ 0xfdff) || (0xfe70 ≤ n && n ≤ 0xfefc) ||
      (0x10800 ≤ n && n ≤ 0x10fff) || (0x1e800 ≤ n && n ≤ 0x1efff))

/-- Whether a sign runs from left to right, if it has a direction of its own.  Halves do, though
they are no characters. -/
def direction? : Sign → Option Bool
  | .char c => if isWord c && !isDigit c && c != '_' then some !(isRightToLeft c) else none
  | .half _ => some true

/-- Whether a text starts to run from left to right, going by its first sign with a direction. -/
def textDirection? (signs : List Sign) : Option Bool := signs.findSome? direction?

/-- Whether an element runs from left to right: as its `dir` attribute says, or its text, or else
the elements around it. -/
def leftToRight? (ctx : Context) : List Place → Option Bool
  | [] => none
  | p :: outer =>
    let e := p.element
    let named := ((attributeValue? e "dir").map fun v => (String.ofList v).toLower).getD ""
    let name := e.name.toLower
    let kind := ((attributeValue? e "type").map fun v => (String.ofList v).toLower).getD ""
    let around : Option Bool :=
      if ctx.root == some e.order then some true else leftToRight? ctx outer
    if named == "ltr" then some true
    else if named == "rtl" then some false
    else if named != "auto" && ctx.root == some e.order then some true
    else if named != "auto" && name == "input" && kind == "tel" then some true
    else if named == "auto" &&
        (name == "textarea" ||
          (name == "input" && ["text", "search", "tel", "url", "email"].contains kind)) then
      let value :=
        if name == "textarea" then (ownContent e).flatten
        else ((attributeValue? e "value").getD []).map .char
      if value.isEmpty then around else some ((textDirection? value).getD true)
    else if named == "auto" || name == "bdi" then
      match textDirection? (content e).flatten with
      | some found => some found
      | none => around
    else around

/-! ## Matching -/

def Relation.places (p : Place) : Relation → List Place
  | .ancestor => p.ancestors
  | .parent => p.parent?.toList
  | .earlier => p.earlier
  | .justBefore => p.earlier.take 1
  | .descendant => p.descendants
  | .child => p.children
  | .later => p.later
  | .justAfter => p.later.take 1

mutual

def Test.holds (ctx : Context) (t : Test) (p : Place) : Bool :=
  match t with
  | .never => false
  | .tag name => p.element.name.toLower == name
  | .id name => (attributeValue? p.element "id").getD [] == name.toList
  | .className name => ((p.element.attributeWords? "class").getD []).contains name
  | .attribute name comparison value ignoreCase =>
    ((attributeValue? p.element name).map (comparison.holds ignoreCase value.toList)).getD false
  | .root => isRoot ctx p
  | .scope => p.element.order == ctx.scope
  | .empty => isEmpty p.element
  | .defined => isDefined p.element
  | .showsNothing =>
    let text := (contentOfAll p.element.children).flatten
    text.isEmpty || text == [.char '\n']
  | .contains own texts =>
    if own then texts.any fun t => (ownContent p.element).any (occursIn t.signs)
    else texts.any fun t => occursIn t.signs (content p.element).flatten
  | .language ranges =>
    ((language? p).map fun tag => ranges.any (languageHolds · tag)).getD false
  | .direction ltr => leftToRight? ctx (lineage p) == some ltr
  | .any negated branches => Test.someHold ctx branches p != negated
  | .linked relation selector => (relation.places p).any fun q => Test.allHold ctx selector q
  | .nth positions fromEnd among =>
    Test.someHold ctx among p &&
      positions.contains
        (1 + ((if fromEnd then p.later else p.earlier).filter fun q =>
          Test.someHold ctx among q).length)
  | .nthOfType positions fromEnd =>
    positions.contains
      (1 + ((if fromEnd then p.later else p.earlier).filter fun q =>
        q.element.name.toLower == p.element.name.toLower).length)

/-- Whether an element passes all tests of a selector. -/
def Test.allHold (ctx : Context) (ts : List Test) (p : Place) : Bool :=
  match ts with
  | [] => true
  | t :: rest => Test.holds ctx t p && Test.allHold ctx rest p

/-- Whether an element matches one of several selectors. -/
def Test.someHold (ctx : Context) (branches : List (List Test)) (p : Place) : Bool :=
  match branches with
  | [] => false
  | ts :: rest => Test.allHold ctx ts p || Test.someHold ctx rest p

end

/-- What a selection that starts from a place can refer to. -/
def Context.of (p : Place) : Context :=
  let top := p.outermost
  let root := top.children.head?.map (·.element.order)
  { scope := if p.parent?.isNone then root.getD 0 else p.element.order, root := root }

/-- The elements inside a place that match one of several selectors, in document order. -/
def select (choices : Choices) (p : Place) : List Place :=
  p.descendants.filter (Test.someHold (Context.of p) choices)

end ReleaseSearch.Selector
