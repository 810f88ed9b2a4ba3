import ReleaseSearch.Html.Reference
import ReleaseSearch.Text.Case

/-!
# Markup tokens

`Token.read` splits a document into start tags, end tags, runs of text, references and comments.
It reads every text: markup that never ends is text, and only a marked section with an unknown
keyword or an endless number is refused.

A document is read in two passes.  The first stops where something is unfinished; the second goes
on from there, knowing that nothing more will come, and takes what is unfinished as text.
-/

namespace ReleaseSearch.Html

open ReleaseSearch.Text

inductive Fault where
  | unknownSection
  | endlessNumber
  deriving DecidableEq, Repr

/-- What a piece of markup that shows no text is. -/
inductive Remark where
  | comment
  | declaration
  deriving DecidableEq, Repr

inductive Token where
  | start (name : String) (attributes : List (String × String)) (closed : Bool)
  | stop (name : String)
  | text (cs : List Char)
  | named (name : List Char)
  | numbered (n : Nat)
  | remark (kind : Remark) (cs : List Char)
  | literal (cs : List Char)
  deriving Repr

/-- What a step of the reader found: tokens and the rest, or something unfinished. -/
inductive Found where
  | tokens (ts : List Token) (rest : List Char)
  | unfinished
  | refused (fault : Fault)

/-! ## Searching -/

/-- The text before the first place where `stop` succeeds, and the rest after it. -/
def before? (stop : List Char → Option (List Char)) :
    List Char → Option (List Char × List Char)
  | [] => (stop []).map fun rest => ([], rest)
  | c :: cs =>
    match stop (c :: cs) with
    | some rest => some ([], rest)
    | none => (before? stop cs).map fun p => (c :: p.1, p.2)

/-- The rest after a closing bracket of a tag. -/
def afterBracket? : List Char → Option (List Char)
  | '>' :: cs => some cs
  | _ => none

def afterComment? : List Char → Option (List Char)
  | '-' :: '-' :: cs => afterBracket? (cs.dropWhile isBlank)
  | _ => none

/-- The rest after one closing square bracket and the bracket of the tag. -/
def afterSection? : List Char → Option (List Char)
  | ']' :: cs => afterBracket? (cs.dropWhile isBlank)
  | _ => none

/-- The rest after two closing square brackets and the bracket of the tag. -/
def afterDoubleSection? : List Char → Option (List Char)
  | ']' :: cs => afterSection? (cs.dropWhile isBlank)
  | _ => none

/-! ## Start tags -/

def endsTagName (c : Char) : Bool :=
  c == '\t' || c == '\n' || c == '\r' || c == '\x0c' || c == ' ' || c == '/' || c == '>' ||
    c == '\x00'

/-- Drops blanks and slashes, but not the slash that closes a tag; answers the last character
dropped, or `last` if there was none. -/
def dropFiller (last : Char) : List Char → Char × List Char
  | [] => (last, [])
  | c :: cs =>
    if isBlank c then dropFiller c cs
    else if c = '/' && cs.head? != some '>' then dropFiller c cs
    else (last, c :: cs)

/-- An attribute as written: its name and, unless it has none, its value. -/
abbrev RawAttribute := List Char × Option (List Char)

/-- The value of an attribute at the start of `cs`, with the last character it takes up and the
rest; `none` if there is no value or its quote is never closed. -/
def attributeValue? (cs : List Char) : Option (List Char × Char × List Char) :=
  let signs := (cs.dropWhile isBlank).takeWhile (· == '=')
  if signs.isEmpty then none
  else
    let near := (cs.dropWhile isBlank).drop signs.length
    let far := near.dropWhile isBlank
    let bare (prior : List Char) (text : List Char) : List Char × Char × List Char :=
      let value := prior ++ text.takeWhile fun c => c != '>' && !isBlank c
      (value, value.getLast?.getD '=', text.drop (value.length - prior.length))
    match far with
    | q :: inner =>
      if q == '\'' || q == '"' then
        match cut? q inner with
        | some (value, rest) => some (value, q, rest)
        | none =>
          if near.length != far.length then some ([], ' ', far)
          else if signs.length ≥ 2 then some (bare ['='] near)
          else none
      else some (bare [] far)
    | [] => some (bare [] far)

/-- The attribute at the start of `cs`, which follows the character `last`. -/
def attribute? (last : Char) (cs : List Char) : Option (RawAttribute × Char × List Char) :=
  if !(isBlank last || last == '/' || last == '\'' || last == '"') then none
  else
    match cs with
    | [] => none
    | c :: cs' =>
      if isBlank c || c == '/' || c == '>' then none
      else
        let more := cs'.takeWhile fun d => !(isBlank d || d == '/' || d == '=' || d == '>')
        let rest := cs'.drop more.length
        match attributeValue? rest with
        | some (value, last', rest') => some ((c :: more, some value), last', rest')
        | none => some ((c :: more, none), more.getLast?.getD c, rest)

/-- The attributes at the start of `cs`, and the rest. -/
def rawAttributes (last : Char) (cs : List Char) : List RawAttribute × List Char :=
  match attribute? last cs with
  | none => ([], cs)
  | some (attr, last', rest) =>
    let (last'', rest') := dropFiller last' rest
    if rest'.length < cs.length then
      let (more, stop) := rawAttributes last'' rest'
      (attr :: more, stop)
    else ([attr], rest')
termination_by cs.length

/-- The attribute with its name in lower case and the references of its value resolved. -/
def finishAttribute (raw : RawAttribute) : Except Unit (String × String) := do
  let value ← unescape (raw.2.getD [])
  return (lower (String.ofList raw.1), String.ofList value)

/-- Reads a start tag; the text begins with the bracket and a letter. -/
def startTag (cs : List Char) : Found :=
  let inner := cs.drop 1
  let name := inner.takeWhile (!endsTagName ·)
  let (last, rest) := dropFiller (name.getLast?.getD '<') (inner.drop name.length)
  let (raws, rest) := rawAttributes last rest
  let tag (closed : Bool) (rest : List Char) : Found :=
    match raws.mapM finishAttribute with
    | .ok attributes =>
      .tokens [.start (lower (String.ofList name)) attributes closed] rest
    | .error () => .refused .endlessNumber
  match rest with
  | '>' :: rest => tag false rest
  | '/' :: '>' :: rest => tag true rest
  | [] => .unfinished
  | c :: _ =>
    if c.isAlpha || c == '=' || c == '/' then .unfinished
    else
      match raws.mapM finishAttribute with
      | .ok _ => .tokens [.text (cs.take (cs.length - rest.length))] rest
      | .error () => .refused .endlessNumber

/-! ## End tags and remarks -/

/-- Whether `c` may occur in the name of a plainly written end tag. -/
def isEndTagChar (c : Char) : Bool :=
  c.isAlphanum || c == '-' || c == '.' || c == ':' || c == '_'

/-- The name of an end tag that holds nothing else but blanks, and the rest after it. -/
def plainEndTag? (cs : List Char) : Option (List Char × List Char) :=
  match (cs.drop 2).dropWhile isBlank with
  | c :: more =>
    if c.isAlpha then
      let name := c :: more.takeWhile isEndTagChar
      match (more.drop (name.length - 1)).dropWhile isBlank with
      | '>' :: rest => some (name, rest)
      | _ => none
    else none
  | [] => none

/-- Reads an end tag; the text begins with the bracket and a slash. -/
def endTag (cs : List Char) : Found :=
  match before? afterBracket? (cs.drop 2) with
  | none => .unfinished
  | some (inner, rest) =>
    match plainEndTag? cs with
    | some (name, rest) => .tokens [.stop (lower (String.ofList name))] rest
    | none =>
      match inner with
      | [] => .tokens [] rest
      | c :: _ =>
        if c.isAlpha then
          .tokens [.stop (lower (String.ofList (inner.takeWhile (!endsTagName ·))))] rest
        else .tokens [.remark .comment inner] rest

/-- The keywords of marked sections that end with two closing square brackets. -/
def sectionKeywords : List String := ["temp", "cdata", "ignore", "include", "rcdata"]

/-- The keywords of marked sections that end with one closing square bracket. -/
def conditionKeywords : List String := ["if", "else", "endif"]

/-- Reads a marked section; the text begins after its opening square bracket. -/
def markedSection (cs : List Char) : Found :=
  let finish (stop : List Char → Option (List Char)) : Found :=
    match before? stop cs with
    | none => .unfinished
    | some (inner, rest) =>
      if upper (String.ofList (inner.take 6)) == "CDATA[" then
        .tokens [.literal (inner.drop 6)] rest
      else .tokens [.remark .declaration inner] rest
  match cs with
  | [] => .unfinished
  | c :: more =>
    if !c.isAlpha then .refused .unknownSection
    else
      let name := c :: more.takeWhile fun d => d.isAlphanum || d == '-' || d == '_' || d == '.'
      let rest := (more.drop (name.length - 1)).dropWhile isBlank
      let keyword := (String.ofList name).toLower
      if rest.isEmpty then .unfinished
      else if sectionKeywords.contains keyword then finish afterDoubleSection?
      else if conditionKeywords.contains keyword then finish afterSection?
      else .refused .unknownSection

/-- Reads a declaration that is not a comment; the text begins with `<!`. -/
def declaration (cs : List Char) : Found :=
  if (cs.drop 2).head? == some '[' then markedSection (cs.drop 3)
  else
    let isType := (String.ofList ((cs.drop 2).take 7)).toLower == "doctype"
    match before? afterBracket? (cs.drop (if isType then 9 else 2)) with
    | none => .unfinished
    | some (inner, rest) =>
      if isType then .tokens [.remark .declaration ((cs.drop 2).take 7 ++ inner)] rest
      else .tokens [.remark .comment inner] rest

/-- Reads the markup at the start of a text that begins with a bracket. -/
def markup (cs : List Char) : Found :=
  match cs with
  | '<' :: '/' :: _ => endTag cs
  | '<' :: '!' :: '-' :: '-' :: inner =>
    match before? afterComment? inner with
    | none => .unfinished
    | some (text, rest) => .tokens [.remark .comment text] rest
  | '<' :: '?' :: inner =>
    match before? afterBracket? inner with
    | none => .unfinished
    | some (text, rest) => .tokens [.remark .declaration text] rest
  | '<' :: '!' :: _ => declaration cs
  | '<' :: c :: rest => if c.isAlpha then startTag cs else .tokens [.text ['<']] (c :: rest)
  | _ => .unfinished

/-- Takes markup that is never finished as text: up to the next closing bracket, or else up to the
next opening one, or else the bracket alone. -/
def unfinishedText (cs : List Char) : List Token × List Char :=
  let inner := cs.drop 1
  let text :=
    if inner.contains '>' then cs.take 1 ++ inner.takeWhile (· != '>') ++ ['>']
    else if inner.contains '<' then cs.take 1 ++ inner.takeWhile (· != '<')
    else cs.take 1
  ([.text text], cs.drop text.length)

/-! ## References in text -/

/-- What the reader does at an ampersand: go on after some tokens, or stop this pass. -/
inductive AtReference where
  | go (ts : List Token) (rest : List Char)
  | halt (ts : List Token) (rest : List Char)
  | refused (fault : Fault)

/-- The rest without the semicolon that closes a reference. -/
def dropSemicolon : List Char → List Char
  | ';' :: cs => cs
  | cs => cs

/-- Reads a reference by number; the text begins after `&#`. -/
def numbered (cs : List Char) : AtReference :=
  let (isHex, digits) :=
    match cs with
    | 'x' :: ds => (true, ds.takeWhile isHexDigit)
    | 'X' :: ds => (true, ds.takeWhile isHexDigit)
    | _ => (false, cs.takeWhile isAsciiDigit)
  let rest := cs.drop (digits.length + if isHex then 1 else 0)
  let complete := !digits.isEmpty && (rest.head?.map (!isHexDigit ·)).getD false
  if !complete then
    if cs.contains ';' then .halt [.text ['&', '#']] cs else .halt [] ('&' :: '#' :: cs)
  else if isHex then .go [.numbered (hexValue digits)] (dropSemicolon rest)
  else if digits.length > Decimal.digitLimit then .refused .endlessNumber
  else .go [.numbered (Decimal.digitsValue digits)] (dropSemicolon rest)

/-- The name of a reference at the start of `cs`: a letter and then letters, digits, hyphens and
points, and a character that is no letter or digit must follow. -/
def referenceName? (cs : List Char) : Option (List Char) :=
  match cs with
  | [] => none
  | c :: more =>
    if !c.isAlpha then none
    else
      let run := c :: more.takeWhile fun d => d.isAlphanum || d == '-' || d == '.'
      if run.length < cs.length then some run
      else
        let name := (dropEndWhile Char.isAlphanum run).dropLast
        if name.isEmpty then none else some name

/-- Reads the reference after an ampersand; `final` tells that no more text will come. -/
def reference (final : Bool) (cs : List Char) : AtReference :=
  match cs with
  | '#' :: cs => numbered cs
  | _ =>
    match referenceName? cs with
    | some name => .go [.named name] (dropSemicolon (cs.drop name.length))
    | none =>
      match cs with
      | [] => .halt [] ['&']
      | [c] =>
        if c.isAlpha then .halt [] (if final then [c] else ['&', c])
        else .go [.text ['&']] cs
      | c :: _ => if c.isAlpha then .halt [] ('&' :: cs) else .go [.text ['&']] cs

/-! ## Passes -/

/-- The elements whose content is text up to their end tag. -/
def rawElements : List String := ["script", "style"]

/-- Whether `c` is the lower-case letter `letter`, up to case. -/
def isSameLetter (letter c : Char) : Bool :=
  c.toLower == letter || (letter == 's' && c == 'ſ')

/-- The rest after `name`, up to case. -/
def afterName? : List Char → List Char → Option (List Char)
  | [], cs => some cs
  | _ :: _, [] => none
  | n :: ns, c :: cs => if isSameLetter n c then afterName? ns cs else none

/-- Whether an end tag of the element `name` starts here. -/
def isEndOf (name : String) : List Char → Bool
  | '<' :: '/' :: cs =>
    match afterName? name.toList (cs.dropWhile isBlank) with
    | some rest => (afterBracket? (rest.dropWhile isBlank)).isSome
    | none => false
  | _ => false

/-- The text before the end tag of `name`, and the rest from that tag on. -/
def beforeEndOf? (name : String) (cs : List Char) : Option (List Char × List Char) :=
  before? (fun rest => if isEndOf name rest then some rest else none) cs

/-- Where a pass stopped: the element whose raw text it is in, and the text not yet read. -/
structure Halt where
  raw : Option String
  rest : List Char

/-- A token of text, unless there is none. -/
def textToken (cs : List Char) : List Token := if cs.isEmpty then [] else [.text cs]

/-- The raw element that the last of the tokens opens. -/
def opens? (ts : List Token) : Option String :=
  match ts with
  | [.start name _ false] => if rawElements.contains name then some name else none
  | _ => none

/-- The tokens of the raw text of the element `name` and of the end tag after it. -/
def rawText (name : String) (cs : List Char) : Option (List Token × Bool × List Char) :=
  match beforeEndOf? name cs with
  | none => none
  | some (text, rest) =>
    match before? afterBracket? rest with
    | none => none
    | some (inner, rest') =>
      match plainEndTag? rest with
      | some (found, _) =>
        if lower (String.ofList found) == name then
          some (textToken text ++ [.stop name], true, rest')
        else some (textToken text ++ [.text (inner ++ ['>'])], false, rest')
      | none => some (textToken text ++ [.text (inner ++ ['>'])], false, rest')

/-- One pass over the text `cs`, inside the raw element `raw` if there is one. -/
def pass (final : Bool) (raw : Option String) (cs : List Char) :
    Except Fault (List Token × Halt) :=
  let continueWith (ts : List Token) (raw : Option String) (rest : List Char) :
      Except Fault (List Token × Halt) :=
    if rest.length < cs.length then
      (pass final raw rest).map fun p => (ts ++ p.1, p.2)
    else .ok (ts, ⟨raw, rest⟩)
  match raw with
  | some name =>
    match rawText name cs with
    | none => .ok ([], ⟨raw, cs⟩)
    | some (ts, ended, rest) => continueWith ts (if ended then none else raw) rest
  | none =>
    let text := cs.takeWhile fun c => c != '&' && c != '<'
    let said := textToken text
    match cs.drop text.length with
    | [] => .ok (said, ⟨none, []⟩)
    | '<' :: inner =>
      match markup ('<' :: inner) with
      | .refused fault => .error fault
      | .tokens ts rest => continueWith (said ++ ts) (opens? ts) rest
      | .unfinished =>
        if final && !inner.isEmpty then
          let (ts, rest) := unfinishedText ('<' :: inner)
          continueWith (said ++ ts) none rest
        else .ok (said, ⟨none, '<' :: inner⟩)
    | _ :: inner =>
      match reference final inner with
      | .refused fault => .error fault
      | .go ts rest => continueWith (said ++ ts) none rest
      | .halt ts rest => .ok (said ++ ts, ⟨none, rest⟩)
termination_by cs.length

/-- The tokens of a document.  Raw text without its end tag is dropped. -/
def Token.read (cs : List Char) : Except Fault (List Token) := do
  let (first, halt) ← pass false none cs
  let (second, halt') ← pass true halt.raw halt.rest
  return first ++ second ++ (if halt'.raw.isSome then [] else textToken halt'.rest)

end ReleaseSearch.Html
