import ReleaseSearch.Selector.Basic
import ReleaseSearch.Decimal.Read

/-!
# Reading selectors

`Choices.read` reads a list of selectors separated by commas.  The functions on characters answer
what they found and the rest, or `none` if the text has another form.
-/

namespace ReleaseSearch.Selector

open ReleaseSearch.Text

/-! ## Blanks, escapes and names -/

/-- The rest after one blank; a line break may have two characters. -/
def blank? : List Char → Option (List Char)
  | '\r' :: '\n' :: cs => some cs
  | c :: cs =>
    if c == ' ' || c == '\t' || c == '\n' || c == '\x0c' || c == '\r' then some cs else none
  | [] => none

def afterRemark? : List Char → Option (List Char)
  | '*' :: '/' :: cs => some cs
  | _ :: cs => afterRemark? cs
  | [] => none

def filler? (cs : List Char) : Option (List Char) :=
  match cs with
  | '/' :: '*' :: inner => afterRemark? inner
  | _ => blank? cs

def skipFiller (cs : List Char) : List Char :=
  match filler? cs with
  | some rest => if rest.length < cs.length then skipFiller rest else rest
  | none => cs
termination_by cs.length

/-- The length of the escape at the start of `cs`, which begins with a backslash. -/
def escapeLength? : List Char → Option Nat
  | '\\' :: cs =>
    let digits := (cs.takeWhile isHexDigit).take 6
    if !digits.isEmpty then
      let rest := cs.drop digits.length
      some (1 + digits.length + (rest.length - ((blank? rest).getD rest).length))
    else
      match cs with
      | [] => some 1
      | ['\n'] => some 1
      | c :: _ => if c == '\r' || c == '\n' || c == '\x0c' then none else some 2
  | _ => none

def isNameStart (c : Char) : Bool := c.isAlpha || c == '_' || 0xa0 ≤ c.toNat

def isNamePart (c : Char) : Bool := isNameStart c || c == '-' || c.isDigit

/-- The length of the run of name characters and escapes at the start of `cs`. -/
def nameRun (part : Char → Bool) : Nat → List Char → Nat
  | 0, _ => 0
  | fuel + 1, cs =>
    match cs with
    | [] => 0
    | c :: rest =>
      if part c then 1 + nameRun part fuel rest
      else
        match escapeLength? cs with
        | some n => n + nameRun part fuel (cs.drop n)
        | none => 0

/-- The length of the name at the start of `cs`; zero if there is none. -/
def nameLength (cs : List Char) : Nat :=
  let fuel := cs.length + 1
  let hyphen := if cs.head? == some '-' then 1 else 0
  let start := nameRun isNameStart fuel (cs.drop hyphen)
  if start > 0 then hyphen + start + nameRun isNamePart fuel (cs.drop (hyphen + start))
  else if cs.take 2 == ['-', '-'] then 2 + nameRun isNamePart fuel (cs.drop 2)
  else 0

/-- The name at the start of `cs` as it is written, and the rest. -/
def name? (cs : List Char) : Option (List Char × List Char) :=
  let n := nameLength cs
  if n = 0 then none else some (cs.take n, cs.drop n)

/-- The sign that hexadecimal digits stand for; too large a number is refused. -/
def escapedSign? (digits : List Char) : Option Sign :=
  let n := hexValue digits
  if n = 0 then some (.char '\ufffd') else Sign.ofCode? n

/-- Signs as far as they matter for the form of a selector, where a half is like any letter beyond
ASCII. -/
def shape (signs : List Sign) : List Char := signs.map Sign.softened

/-- Resolves the escapes of a text; in a string, an escaped line break stands for nothing. -/
def resolve (isString : Bool) : Nat → List Sign → Option (List Sign)
  | 0, _ => some []
  | fuel + 1, signs =>
    match signs with
    | [] => some []
    | .char '\\' :: rest =>
      match escapeLength? (shape signs) with
      | some n =>
        let digits := ((shape rest).takeWhile isHexDigit).take 6
        let after := resolve isString fuel (signs.drop n)
        if !digits.isEmpty then do return (← escapedSign? digits) :: (← after)
        else if n = 1 then after.map (.char '\ufffd' :: ·)
        else after.map (rest.take 1 ++ ·)
      | none =>
        let blanks := rest.length - ((blank? (shape rest)).getD (shape rest)).length
        if isString then resolve isString fuel (rest.drop blanks)
        else (resolve isString fuel rest).map (.char '\\' :: ·)
    | sign :: rest => (resolve isString fuel rest).map (sign :: ·)

def plainSigns? (signs : List Sign) : Option Line :=
  (resolve false (signs.length + 1) signs).map Line.ofSigns

def plain? (cs : List Char) : Option Line := plainSigns? (cs.map .char)

/-- The test that a name makes.  Nothing in a document has a name with a half in it. -/
def testOf (make : String → Test) : Line → Test
  | .whole s => make s
  | .broken _ => .never

/-- The length of the rest of a quoted string, its closing quote included. -/
def stringLength? (quote : Char) : Nat → List Char → Option Nat
  | 0, _ => none
  | fuel + 1, cs =>
    match cs with
    | [] => none
    | '\\' :: rest =>
      match rest with
      | [] => none
      | _ =>
        let used := if rest.take 2 == ['\r', '\n'] then 2 else 1
        (stringLength? quote fuel (rest.drop used)).map (1 + used + ·)
    | c :: rest =>
      if c == quote then some 1
      else if c == '\r' || c == '\n' || c == '\x0c' then none
      else (stringLength? quote fuel rest).map (1 + ·)

/-- The value at the start of `cs`, a quoted string or a name, as it is written, and the rest. -/
def value? (cs : List Char) : Option (List Char × List Char) :=
  match cs with
  | q :: inner =>
    if q == '"' || q == '\'' then
      (stringLength? q (inner.length + 1) inner).map fun n => (cs.take (n + 1), cs.drop (n + 1))
    else name? cs
  | [] => none

def plainValue? (signs : List Sign) : Option Line :=
  match signs with
  | q :: inner =>
    if q == .char '"' || q == .char '\'' then
      (resolve true (inner.length + 1) inner.dropLast).map Line.ofSigns
    else plainSigns? signs
  | [] => some ""

/-- The values at the start of `cs`, separated by commas, as they are written, and the rest. -/
def values? : Nat → List Char → Option (List Char × List Char)
  | 0, _ => none
  | fuel + 1, cs => do
    let (first, rest) ← value? cs
    match skipFiller rest with
    | ',' :: more =>
      let start := skipFiller more
      match values? fuel start with
      | some (others, stop) =>
        let gap := cs.length - first.length - start.length
        some (first ++ rest.take gap ++ others, stop)
      | none => some (first, rest)
    | _ => some (first, rest)

/-- The separate values in a text; whatever is no value is passed over. -/
def splitValues : Nat → List Sign → List (List Sign)
  | 0, _ => []
  | fuel + 1, signs =>
    match signs with
    | [] => []
    | _ :: more =>
      match value? (shape signs) with
      | some (found, _) =>
        signs.take found.length :: splitValues fuel (signs.drop found.length)
      | none => splitValues fuel more

/-- The rest after a closing parenthesis and the blanks before it. -/
def closing? (cs : List Char) : Option (List Char) :=
  match skipFiller cs with
  | ')' :: rest => some rest
  | _ => none

/-! ## Attributes -/

/-- A comparison sign at the start of `cs`: whether it is negated, the comparison, the rest. -/
def comparison? : List Char → Option (Bool × Comparison × List Char)
  | '!' :: '=' :: cs => some (true, .equals, cs)
  | '~' :: '=' :: cs => some (false, .word, cs)
  | '^' :: '=' :: cs => some (false, .starts, cs)
  | '|' :: '=' :: cs => some (false, .dashed, cs)
  | '*' :: '=' :: cs => some (false, .contains, cs)
  | '$' :: '=' :: cs => some (false, .ends, cs)
  | '=' :: cs => some (false, .equals, cs)
  | _ => none

/-- The rest after a closing square bracket and the blanks before it. -/
def bracket? (cs : List Char) : Option (List Char) :=
  match skipFiller cs with
  | ']' :: rest => some rest
  | _ => none

/-- The test of the attribute `key`, from what follows its name. -/
def attributeTest? (key : List Char) (cs : List Char) : Option (Test × List Char) := do
  let key ← plain? key
  match bracket? cs with
  | some rest => return (testOf having key, rest)
  | none =>
    let (negated, comparison, rest) ← comparison? (skipFiller cs)
    let (written, rest) ← value? (skipFiller rest)
    let value ← plainValue? (written.map .char)
    let make (ignoreCase : Bool) : Test :=
      let test := testOf (fun key => testOf (.attribute key comparison · ignoreCase) value) key
      if negated then .any true [[test]] else test
    let byDefault := key.softened.toLower == "type"
    match bracket? rest with
    | some rest => return (make byDefault, rest)
    | none =>
      match skipFiller rest with
      | c :: rest =>
        if c.toLower == 'i' then return (make true, ← bracket? rest)
        else if c.toLower == 's' || c == 'ſ' then return (make false, ← bracket? rest)
        else none
      | [] => none

/-- The rest after the sign that ends a namespace, and the namespace. -/
def namespace? (cs : List Char) : Option (List Char × List Char) :=
  let (space, rest) :=
    match cs with
    | '*' :: rest => (['*'], rest)
    | _ => (name? cs).getD ([], cs)
  match rest with
  | '|' :: rest => some (space, rest)
  | _ => none

/-- Reads an attribute test after its opening bracket. -/
def attribute? (cs : List Char) : Option (Test × List Char) :=
  let cs := skipFiller cs
  let named (cs : List Char) : Option (Test × List Char) := do
    let (key, rest) ← name? cs
    attributeTest? key rest
  match namespace? cs with
  | some (_, rest) =>
    match named rest with
    | some found => some found
    | none => named cs
  | none => named cs

/-! ## Positions -/

/-- A sign at the start of `cs`: whether it is negative, and the rest. -/
def sign? : List Char → Option (Bool × List Char)
  | '-' :: cs => some (true, cs)
  | '+' :: cs => some (false, cs)
  | _ => none

/-- The number that digits denote, with its sign. -/
def signed (negative : Bool) (digits : List Char) : Int :=
  let n : Int := Decimal.digitsValue digits
  if negative then -n else n

/-- The sets of positions that `cs` may start with, the longest form first, with the rest. -/
def positions (cs : List Char) : List (Positions × List Char) :=
  let words : List (String × Positions) := [("even", ⟨2, 0⟩), ("odd", ⟨2, 1⟩)]
  let byWord := words.filterMap fun w =>
    if (String.ofList (cs.take w.1.length)).toLower == w.1 then some (w.2, cs.drop w.1.length)
    else none
  let (negative, rest) := (sign? cs).getD (false, cs)
  let digits := rest.takeWhile Char.isDigit
  let rest := rest.drop digits.length
  let byNumber : List (Positions × List Char) :=
    match rest with
    | c :: more =>
      if c.toLower == 'n' then
        let step := if digits.isEmpty then signed negative ['1'] else signed negative digits
        let bare := [(⟨step, 0⟩, more)]
        match sign? (skipFiller more) with
        | some (minus, after) =>
          let base := (skipFiller after).takeWhile Char.isDigit
          if base.isEmpty then bare
          else (⟨step, signed minus base⟩, (skipFiller after).drop base.length) :: bare
        | none => bare
      else if digits.isEmpty then [] else [(⟨0, signed negative digits⟩, rest)]
    | [] => if digits.isEmpty then [] else [(⟨0, signed negative digits⟩, rest)]
  byNumber ++ byWord

/-- The rest after the word that introduces the selectors to count among. -/
def afterOf? (cs : List Char) : Option (List Char) :=
  let rest := skipFiller cs
  let spaced := (cs.take (cs.length - rest.length)).any fun c => (blank? [c]).isSome
  match rest with
  | o :: f :: more =>
    let after := skipFiller more
    let spacedAfter := (more.take (more.length - after.length)).any fun c => (blank? [c]).isSome
    if spaced && o.toLower == 'o' && f.toLower == 'f' && spacedAfter then some after else none
  | _ => none

/-! ## Selectors -/

/-- How a list of selectors is read: inside parentheses, as relative selectors, and with empty
places forgiven. -/
structure Mode where
  inside : Bool := false
  relative : Bool := false
  forgiving : Bool := false

/-- What has been read of a list of selectors: the finished ones, last first; the tests of the
current one; whether it has any, and whether it can never match; the selector that it is linked
to; and, for relative selectors, the parts of the current one. -/
structure Draft where
  done : Choices := []
  tests : List Test := []
  present : Bool := false
  never : Bool := false
  link : Option (Relation × List Test) := none
  parts : List (Relation × List Test) := []
  relation : Relation := .descendant

namespace Draft

def add (d : Draft) (tests : List Test) : Draft :=
  { d with tests := d.tests ++ tests, present := true }

def current (d : Draft) : List Test :=
  if d.never then [.never]
  else d.tests ++ d.link.toList.map fun l => .linked l.1 l.2

/-- A chain of relative parts as one selector. -/
def chain : List (Relation × List Test) → List Test
  | [] => []
  | (relation, tests) :: rest => [.linked relation (tests ++ chain rest)]

/-- Ends the current selector with nothing linked to the next one. -/
def endCurrent (d : Draft) : Draft :=
  { d with
    done := d.current :: d.done, tests := [], present := false, never := false, link := none }

/-- Handles a comma or a sign between two selectors of an ordinary list. -/
def combine (d : Draft) (mode : Mode) (sign : Option Relation) : Option Draft :=
  match sign with
  | none =>
    if d.present then some d.endCurrent
    else if mode.forgiving then some { d with never := true }.endCurrent
    else none
  | some relation =>
    if d.present then
      some { d with
        tests := [], present := false, never := false, link := some (relation, d.current) }
    else none

/-- Handles a comma or a sign between two parts of a relative selector. -/
def combineRelative (d : Draft) (sign : Option Relation) : Option Draft :=
  let withPart : Draft :=
    { d with
      parts := d.parts ++ [(d.relation, d.current)], tests := [], present := false, never := false }
  match sign with
  | none =>
    if d.present then
      some { withPart with
        done := chain withPart.parts :: d.done, parts := [], relation := .descendant }
    else none
  | some relation =>
    if d.present then some { withPart with relation := relation.converse }
    else if d.relation != .descendant then none
    else some { d with relation := relation.converse }

def finish (d : Draft) (mode : Mode) : Option Choices :=
  if d.present then
    if mode.relative then
      some ((chain (d.parts ++ [(d.relation, d.current)]) :: d.done).reverse)
    else some (d.current :: d.done).reverse
  else if mode.forgiving && (d.done.isEmpty || d.link.isNone) then
    some ([.never] :: d.done).reverse
  else none

end Draft

/-- The relation that a sign between two selectors stands for, from the later to the earlier. -/
def combinator? : Char → Option (Option Relation)
  | ',' => some none
  | '>' => some (some .parent)
  | '+' => some (some .justBefore)
  | '~' => some (some .earlier)
  | _ => none

/-- Reads a comma or a sign between selectors.  A blank stands for the ancestor relation unless a
sign follows it directly. -/
def combine? : Nat → List Char → Option (Option Relation × List Char)
  | 0, _ => none
  | fuel + 1, cs =>
    match cs with
    | [] => none
    | c :: rest =>
      match combinator? c with
      | some found => some (found, skipFiller rest)
      | none =>
        match blank? cs with
        | some after =>
          if (after.head?.bind combinator?).isSome then combine? fuel after
          else some (some .ancestor, skipFiller after)
        | none => (filler? cs).bind (combine? fuel)

/-- Reads a class, an identifier, a tag or an attribute test; tags only where `start` says so. -/
def simple? (start : Bool) (cs : List Char) : Option (List Test × List Char) :=
  let tag (cs : List Char) : Option (Line × List Char) :=
    match cs with
    | '*' :: rest => some ("*", rest)
    | _ => do
      let (written, rest) ← name? cs
      return (← plain? written, rest)
  let tagTest (name : Line) : List Test :=
    if name == "*" then [] else [testOf (fun name => .tag name.toLower) name]
  match cs with
  | '&' :: rest => some ([.scope], rest)
  | '@' :: _ => none
  | '#' :: rest => do
    let (written, rest) ← name? rest
    return ([testOf .id (← plain? written)], rest)
  | '.' :: rest => do
    let (written, rest) ← name? rest
    return ([testOf .className (← plain? written)], rest)
  | '[' :: rest => (attribute? rest).map fun found => ([found.1], found.2)
  | _ =>
    if !start then none
    else
      let spaced := do
        let (space, rest) ← namespace? cs
        let (name, rest) ← tag rest
        return (if space == ['*'] then tagTest name else [.never], rest)
      match spaced with
      | some found => some found
      | none => (tag cs).map fun found => (tagTest found.1, found.2)

/-- What a pseudo-class asks for: tests, or a list of selectors to be read first. -/
inductive Pseudo where
  | tests (ts : List Test) (rest : List Char)
  | within (mode : Mode) (make : Choices → List Test) (rest : List Char)

/-- Reads the arguments of a pseudo-class that has a form of its own; the text begins after the
opening parenthesis. -/
def special? (pseudo : String) (cs : List Char) : Option Pseudo :=
  let inside : Mode := { inside := true }
  if pseudo == ":contains" || pseudo == ":-soup-contains" || pseudo == ":-soup-contains-own" then do
    let (written, rest) ← values? (cs.length + 1) cs
    let rest ← closing? rest
    let text ← resolve false (written.length + 1) (written.map .char)
    let texts ← (splitValues (text.length + 1) text).mapM plainValue?
    return .tests [.contains (pseudo == ":-soup-contains-own") texts] rest
  else if pseudo == ":nth-child" || pseudo == ":nth-last-child" then
    let fromEnd := pseudo == ":nth-last-child"
    (positions cs).findSome? fun (found, rest) =>
      match closing? rest with
      | some rest => some (.tests [.nth found fromEnd [[]]] rest)
      | none => (afterOf? rest).map fun rest =>
          .within inside (fun among => [.nth found fromEnd among]) rest
  else if pseudo == ":nth-of-type" || pseudo == ":nth-last-of-type" then
    (positions cs).findSome? fun (found, rest) =>
      (closing? rest).map fun rest =>
        .tests [.nthOfType found (pseudo == ":nth-last-of-type")] rest
  else if pseudo == ":lang" then do
    let (written, rest) ← values? (cs.length + 1) cs
    let rest ← closing? rest
    let ranges ← (splitValues (written.length + 1) (written.map .char)).mapM plainValue?
    return .tests [.language (ranges.filterMap Line.whole?)] rest
  else if pseudo == ":dir" then do
    let word := (String.ofList (cs.take 3)).toLower
    if word == "ltr" || word == "rtl" then
      return .tests [.direction (word == "ltr")] (← closing? (cs.drop 3))
    else none
  else none

/-- Reads a pseudo-class; the text begins after its colon. -/
def pseudo? (cs : List Char) : Option Pseudo := do
  let (written, rest) ← name? cs
  if written.take 2 == ['-', '-'] then none
  else
    let pseudo := (":" ++ (← plain? written).softened).toLower
    let inside : Mode := { inside := true }
    match rest with
    | '(' :: more =>
      let more := skipFiller more
      match special? pseudo more with
      | some found => return found
      | none =>
        if withSelectors.contains pseudo then
          let mode : Mode :=
            { inside with
              relative := pseudo == ":has", forgiving := pseudo == ":is" || pseudo == ":where" }
          return .within mode (fun branches => [.any (pseudo == ":not") branches]) more
        else if transientWithArguments.contains pseudo then
          return .within inside (fun _ => [.never]) more
        else none
    | _ =>
      match named? pseudo with
      | some ts => return .tests ts rest
      | none => if transient.contains pseudo then return .tests [.never] rest else none

/-- Reads a list of selectors up to its end, where `tail` characters are left. -/
def readChoices (tail : Nat) : Nat → Mode → Draft → List Char → Option (Choices × List Char)
  | 0, _, _, _ => none
  | fuel + 1, mode, d, cs =>
    if cs.length ≤ tail then
      if mode.inside then none else (d.finish mode).map fun choices => (choices, cs)
    else
      match closing? cs with
      | some rest =>
        if mode.inside then (d.finish mode).map fun choices => (choices, rest) else none
      | none =>
        match cs with
        | ':' :: more => do
          match ← pseudo? more with
          | .tests ts rest => readChoices tail fuel mode (d.add ts) rest
          | .within inner make rest =>
            let (choices, rest) ← readChoices tail fuel inner {} rest
            readChoices tail fuel mode (d.add (make choices)) rest
        | _ =>
          match simple? (!d.present) cs with
          | some (ts, rest) => readChoices tail fuel mode (d.add ts) rest
          | none => do
            let (sign, rest) ← combine? (cs.length + 1) cs
            let d ← if mode.relative then d.combineRelative sign else d.combine mode sign
            readChoices tail fuel mode d rest

/-- The number of characters at the end of a text that are blanks and remarks. -/
def fillerAtEnd : List Char → Nat
  | [] => 0
  | c :: cs =>
    if (skipFiller (c :: cs)).isEmpty then cs.length + 1 else fillerAtEnd cs

def Choices.read (text : String) : Option Choices :=
  let cs := text.toList.map fun c => if c == '\x00' then '\ufffd' else c
  (readChoices (fillerAtEnd cs) (2 * cs.length + 2) {} {} (skipFiller cs)).map (·.1)

end ReleaseSearch.Selector
