import ReleaseSearch.Html.Tree

/-!
# Selectors

A selector is a list of tests that an element has to pass, and a selector list offers several of
them.  A test may look at the element itself, at its place among its siblings, or ask that some
element related to it matches another selector.
-/

namespace ReleaseSearch.Selector

inductive Relation where
  | ancestor
  | parent
  | earlier
  | justBefore
  | descendant
  | child
  | later
  | justAfter
  deriving DecidableEq, Repr

def Relation.converse : Relation → Relation
  | .ancestor => .descendant
  | .parent => .child
  | .earlier => .later
  | .justBefore => .justAfter
  | .descendant => .ancestor
  | .child => .parent
  | .later => .earlier
  | .justAfter => .justBefore

inductive Comparison where
  | present
  | equals
  | starts
  | ends
  | contains
  | word
  | dashed
  deriving DecidableEq, Repr

/-- A set of positions: those of the form `step * k + base` with `k ≥ 0`. -/
structure Positions where
  step : Int
  base : Int
  deriving DecidableEq, Repr

def Positions.contains (s : Positions) (position : Nat) : Bool :=
  let gap := (position : Int) - s.base
  if s.step = 0 then gap == 0 else gap % s.step == 0 && 0 ≤ gap / s.step

/-- A condition on an element.  Only the texts that its content is searched for may be broken. -/
inductive Test where
  | never
  | tag (name : String)
  | id (name : String)
  | className (name : String)
  | attribute (name : String) (comparison : Comparison) (value : String) (ignoreCase : Bool)
  | root
  | scope
  | empty
  | defined
  | showsNothing
  | contains (own : Bool) (texts : List Text.Line)
  | language (ranges : List String)
  | direction (leftToRight : Bool)
  | any (negated : Bool) (branches : List (List Test))
  | linked (relation : Relation) (selector : List Test)
  | nth (positions : Positions) (fromEnd : Bool) (among : List (List Test))
  | nthOfType (positions : Positions) (fromEnd : Bool)

abbrev Choices := List (List Test)

/-! ## Selectors with names of their own -/

def tagged (name : String) : List Test := [.tag name]

def having (name : String) : Test := .attribute name .present "" false

/-- The attribute has the given value; the kind of a form control is compared without case. -/
def valued (name value : String) : Test := .attribute name .equals value (name == "type")

def oneOf (branches : Choices) : Test := .any false branches

def noneOf (branches : Choices) : Test := .any true branches

/-- The form controls that a user can see. -/
def controls : Choices :=
  [[.tag "input", noneOf [[valued "type" "hidden"]]], tagged "button", tagged "select",
    tagged "textarea"]

/-- The form controls, and the elements that group them. -/
def controlsAndGroups : Choices :=
  controls ++ [tagged "fieldset", tagged "optgroup", tagged "option"]

def link : Choices := [[oneOf [tagged "a", tagged "area"], having "href"]]

/-- A box that is checked or an option that is selected. -/
def checked : Choices :=
  [[oneOf [[.tag "input", valued "type" "checkbox"], [.tag "input", valued "type" "radio"]],
      having "checked"],
    [.tag "option", having "selected"]]

/-- A checked control or a button that submits a form. -/
def byDefault : Choices :=
  checked ++
    [[oneOf [tagged "button", tagged "input"], valued "type" "submit",
      .linked .ancestor (tagged "form")]]

/-- A control whose state is open. -/
def indeterminate : Choices :=
  [[.tag "input", valued "type" "checkbox", having "indeterminate"],
    [.tag "input", valued "type" "radio", oneOf [[noneOf [[having "name"]]], [valued "name" ""]],
      noneOf [[having "checked"]]],
    [.tag "progress", noneOf [[having "value"]]]]

/-- A control that is switched off, by itself or by its group. -/
def disabled : Choices :=
  let off (name : String) : List Test := [.tag name, having "disabled"]
  [[oneOf controlsAndGroups, having "disabled"],
    [.tag "option", .linked .parent (off "optgroup")],
    [oneOf (controls ++ [tagged "fieldset"]), .linked .parent (off "fieldset")],
    [oneOf (controls ++ [tagged "fieldset"]),
      .linked .ancestor
        [noneOf [[.tag "legend", .nthOfType ⟨0, 1⟩ false]], .linked .parent (off "fieldset")]]]

def enabled : Choices := [[oneOf controlsAndGroups, noneOf disabled]]

/-- The controls that a form can require. -/
def entries : Test := oneOf [tagged "input", tagged "select", tagged "textarea"]

def required : Choices := [[entries, having "required"]]

def optional : Choices := [[entries, noneOf [[having "required"]]]]

/-- The kinds of input that take text. -/
def textual : List String :=
  ["", "date", "datetime-local", "email", "month", "number", "password", "search", "tel", "text",
    "time", "url", "week"]

def readWrite : Choices :=
  [[oneOf
      [tagged "textarea",
        [.tag "input",
          oneOf ([noneOf [[having "type"]]] :: textual.map fun kind => [valued "type" kind])]],
      noneOf ([having "readonly"] :: disabled)],
    [oneOf [[valued "contenteditable" ""], [.attribute "contenteditable" .equals "true" true]]]]

def readOnly : Choices := [[noneOf readWrite]]

def ranged : List String :=
  ["date", "month", "week", "time", "datetime-local", "number", "range"]

def inRange : Choices :=
  [[.tag "input", oneOf (ranged.map fun kind => [valued "type" kind]),
    oneOf [[having "min"], [having "max"]]]]

/-- The kinds of input that can show a placeholder. -/
def placed : List String :=
  ["", "text", "search", "url", "tel", "email", "password", "number"]

def placeholderShown : Choices :=
  [[.tag "input",
      oneOf ([noneOf [[having "type"]]] :: placed.map fun kind => [valued "type" kind]),
      having "placeholder", noneOf [[valued "placeholder" ""]],
      oneOf [[noneOf [[having "value"]]], [valued "value" ""]]],
    [.tag "textarea", having "placeholder", noneOf [[valued "placeholder" ""]], .showsNothing]]

/-- The first of its siblings, or the last, counted among all or among those of its name. -/
def only (ofType fromEnd : Bool) : Test :=
  if ofType then .nthOfType ⟨0, 1⟩ fromEnd else .nth ⟨0, 1⟩ fromEnd [[]]

/-- The tests that a pseudo-class without arguments stands for. -/
def named? : String → Option (List Test)
  | ":root" => some [.root]
  | ":scope" => some [.scope]
  | ":empty" => some [.empty]
  | ":defined" => some [.defined]
  | ":link" | ":any-link" => some [oneOf link]
  | ":checked" => some [oneOf checked]
  | ":default" => some [oneOf byDefault]
  | ":indeterminate" => some [oneOf indeterminate]
  | ":disabled" => some [oneOf disabled]
  | ":enabled" => some [oneOf enabled]
  | ":required" => some [oneOf required]
  | ":optional" => some [oneOf optional]
  | ":read-only" => some [oneOf readOnly]
  | ":read-write" => some [oneOf readWrite]
  | ":in-range" => some [oneOf inRange]
  | ":out-of-range" => some [.never]
  | ":placeholder-shown" => some [oneOf placeholderShown]
  | ":open" => some [oneOf [tagged "details", tagged "dialog"], having "open"]
  | ":muted" => some [oneOf [tagged "video", tagged "audio"], having "muted"]
  | ":first-child" => some [only false false]
  | ":last-child" => some [only false true]
  | ":only-child" => some [only false false, only false true]
  | ":first-of-type" => some [only true false]
  | ":last-of-type" => some [only true true]
  | ":only-of-type" => some [only true false, only true true]
  | _ => none

/-- The pseudo-classes of states that a document at rest never has. -/
def transient : List String :=
  [":active", ":autofill", ":current", ":focus", ":focus-visible", ":focus-within", ":future",
    ":host", ":hover", ":local-link", ":past", ":paused", ":playing", ":target",
    ":target-within", ":user-invalid", ":visited"]

/-- The pseudo-classes of such states that take selectors. -/
def transientWithArguments : List String := [":current", ":host", ":host-context"]

def withSelectors : List String :=
  [":contains", ":-soup-contains", ":-soup-contains-own", ":has", ":is", ":matches", ":not",
    ":where"]

end ReleaseSearch.Selector
