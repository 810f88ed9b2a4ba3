import ReleaseSearch.Html.Tree

/-!
# Places in a document

An element knows its content; a `Place` also knows its surroundings: the place of its parent and
the nodes before and after it.
-/

namespace ReleaseSearch.Selector

open ReleaseSearch.Html

/-- An element together with its surroundings; the nodes before it are listed backwards. -/
inductive Place where
  | top (element : Element)
  | inside (outer : Place) (before : List Node) (element : Element) (after : List Node)

namespace Place

def element : Place → Element
  | .top e => e
  | .inside _ _ e _ => e

def parent? : Place → Option Place
  | .top _ => none
  | .inside outer _ _ _ => some outer

def ancestors : Place → List Place
  | .top _ => []
  | .inside outer _ _ _ => outer :: outer.ancestors

/-- The nodes before a place, the nearest first. -/
def before : Place → List Node
  | .top _ => []
  | .inside _ before _ _ => before

def after : Place → List Node
  | .top _ => []
  | .inside _ _ _ after => after

/-- The places of the elements among the nodes that follow `before`. -/
def following (outer : Place) (before : List Node) : List Node → List Place
  | [] => []
  | node :: rest =>
    match node.element? with
    | some e => .inside outer before e rest :: following outer (node :: before) rest
    | none => following outer (node :: before) rest

/-- The places of the elements among the nodes that precede `after`, the nearest first. -/
def preceding (outer : Place) (after : List Node) : List Node → List Place
  | [] => []
  | node :: rest =>
    match node.element? with
    | some e => .inside outer rest e after :: preceding outer (node :: after) rest
    | none => preceding outer (node :: after) rest

def node (p : Place) : Node :=
  let e := p.element
  .element e.order e.name e.attributes e.children

/-- The elements after a place, under the same parent. -/
def later (p : Place) : List Place :=
  match p with
  | .top _ => []
  | .inside outer before _ after => following outer (p.node :: before) after

/-- The elements before a place, under the same parent, the nearest first. -/
def earlier (p : Place) : List Place :=
  match p with
  | .top _ => []
  | .inside outer before _ after => preceding outer (p.node :: after) before

def children (p : Place) : List Place := following p [] p.element.children

mutual

/-- The place of a node, if it is an element, and of the elements in it. -/
def spread (outer : Place) (before after : List Node) : Node → List Place
  | .string _ _ => []
  | .element order name attributes children =>
    let p : Place := .inside outer before ⟨order, name, attributes, children⟩ after
    p :: spreadAll p [] children

def spreadAll (outer : Place) (before : List Node) : List Node → List Place
  | [] => []
  | node :: rest => spread outer before rest node ++ spreadAll outer (node :: before) rest

end

/-- The elements inside a place, in document order. -/
def descendants (p : Place) : List Place := spreadAll p [] p.element.children

/-- The outermost place around a place, possibly itself. -/
def outermost (p : Place) : Place := p.ancestors.getLast?.getD p

end Place

end ReleaseSearch.Selector
