import ReleaseSearch.Pattern.Basic

/-!
# Matching a pattern

`matchAt` tries a program at one place of a text and answers the first way it matches, in the
order in which a backtracking search finds them.  The search carries what remains to be matched
as a function, and a bound on its depth that `depth` computes from the program and the length of
the text.

A repetition stops when a round beyond the required ones used up nothing.
-/

namespace ReleaseSearch.Pattern

open ReleaseSearch.Text

/-- A place in a text: what comes before it, nearest first, and what comes after. -/
structure Cursor (α : Type) where
  pos : Nat
  before : List α
  after : List α

variable {α : Type} [Letter α]

namespace Cursor

def start (cs : List α) : Cursor α := ⟨0, [], cs⟩

/-- The place after the next letter, if that satisfies `p`. -/
def step? (p : α → Bool) (cur : Cursor α) : Option (Cursor α) :=
  match cur.after with
  | [] => none
  | c :: cs => if p c then some ⟨cur.pos + 1, c :: cur.before, cs⟩ else none

def back? : Nat → Cursor α → Option (Cursor α)
  | 0, cur => some cur
  | n + 1, ⟨pos, c :: before, after⟩ => back? n ⟨pos - 1, before, c :: after⟩
  | _ + 1, ⟨_, [], _⟩ => none

/-- The text between an earlier place and this one. -/
def since (cur earlier : Cursor α) : List α :=
  earlier.after.take (cur.pos - earlier.pos)

/-- Places reached by up to `n` further letters that satisfy `p`, the furthest first, followed by
`reached`. -/
def runs (p : α → Bool) : Nat → List α → Cursor α → List (Cursor α) → List (Cursor α)
  | 0, _, cur, reached => cur :: reached
  | _ + 1, [], cur, reached => cur :: reached
  | n + 1, c :: cs, cur, reached =>
    if p c then runs p n cs ⟨cur.pos + 1, c :: cur.before, cs⟩ (cur :: reached)
    else cur :: reached

/-- The places after at least `least` and at most `most` letters that satisfy `p`, the furthest
first. -/
def spread (p : α → Bool) (least : Nat) (most : Option Nat) (cur : Cursor α) :
    List (Cursor α) :=
  let limit := cur.after.length
  let reached := runs p (min limit (most.getD limit)) cur.after cur []
  reached.take (reached.length - least)

/-- Whether the place lies between a word character and something else. -/
def onEdge (ascii : Bool) (cur : Cursor α) : Bool :=
  let word : α → Bool := Letter.isA (if ascii then isAsciiWord else isWord)
  cur.before.head?.any word != cur.after.head?.any word

def holds (flags : Flags) (cur : Cursor α) : Anchor → Bool
  | .lineStart => cur.before.isEmpty || (flags.multiLine && cur.before.head?.any isBreak)
  | .lineStop =>
    match cur.after with
    | [] => true
    | a :: rest => isBreak a && (rest.isEmpty || flags.multiLine)
  | .textStart => cur.before.isEmpty
  | .textStop => cur.after.isEmpty
  | .edge => cur.onEdge flags.ascii
  | .noEdge => !cur.onEdge flags.ascii && !(cur.before.isEmpty && cur.after.isEmpty)
where
  /-- Whether a letter ends a line. -/
  isBreak : α → Bool := Letter.isA (· == '\n')

end Cursor

/-- The texts that groups have matched so far. -/
abbrev Captures (α : Type) := List (Nat × List α)

def Captures.get? (caps : Captures α) (index : Nat) : Option (List α) :=
  (caps.find? (·.1 == index)).map (·.2)

/-- Records the text that a group has matched. -/
def Captures.set (caps : Captures α) (index : Nat) (text : List α) : Captures α :=
  (index, text) :: caps.filter (·.1 != index)

/-- Where a match ends and what its groups have matched. -/
structure Found (α : Type) where
  stop : Cursor α
  captures : Captures α

abbrev Rest (α : Type) := Cursor α → Captures α → Option (Found α)

def Rest.done : Rest α := fun cur caps => some ⟨cur, caps⟩

/-- Passes over a text that a group has matched, up to case if the flags ignore it. -/
def Cursor.repeatText? (flags : Flags) : List α → Cursor α → Option (Cursor α)
  | [], cur => some cur
  | a :: rest, cur =>
    (cur.step? fun b => foldedCode flags b == foldedCode flags a).bind
      (Cursor.repeatText? flags rest)

/-- The test of a body that is a single test. -/
def unitTest? (flags : Flags) : List Node → Option (α → Bool)
  | [node] => node.test? flags
  | _ => none

mutual

/-- Matches nodes in sequence and then `k`. -/
def matchNodes : Nat → Flags → List Node → Cursor α → Captures α → Rest α → Option (Found α)
  | 0, _, _, _, _, _ => none
  | _ + 1, _, [], cur, caps, k => k cur caps
  | fuel + 1, flags, node :: rest, cur, caps, k =>
    let next : Rest α := fun cur caps => matchNodes fuel flags rest cur caps k
    match node with
    | .char code => (cur.step? (sameChar flags code)).bind (next · caps)
    | .notChar code => (cur.step? fun a => !sameChar flags code a).bind (next · caps)
    | .any => (cur.step? (dotHolds flags)).bind (next · caps)
    | .set negated items => (cur.step? (setHolds flags negated items)).bind (next · caps)
    | .anchor place => if cur.holds flags place then next cur caps else none
    | .group index on off body =>
      matchNodes fuel (flags.enter on off) body cur caps fun cur' caps' =>
        match index with
        | some i => next cur' (caps'.set i (cur'.since cur))
        | none => next cur' caps'
    | .atomic body =>
      (matchNodes fuel flags body cur caps .done).bind fun found =>
        next found.stop found.captures
    | .look behind negated body =>
      let from? := match behind with
        | none => some cur
        | some width => cur.back? width
      let found := from?.bind fun place => matchNodes fuel flags body place caps .done
      match found, negated with
      | some found, false => next cur found.captures
      | none, true => next cur caps
      | _, _ => none
    | .back index =>
      (caps.get? index).bind fun text => (cur.repeatText? flags text).bind (next · caps)
    | .choice index yes no =>
      matchNodes fuel flags (if (caps.get? index).isSome then yes else no) cur caps next
    | .either branches =>
      branches.findSome? fun branch => matchNodes fuel flags branch cur caps next
    | .loop greed least most body =>
      match unitTest? flags body with
      | some p =>
        let places := cur.spread p least most
        match greed with
        | .greedy => places.findSome? (next · caps)
        | .lazy => places.reverse.findSome? (next · caps)
        | .possessive => places.head?.bind (next · caps)
      | none =>
        match greed with
        | .possessive =>
          (matchRounds fuel flags least most body 0 none cur caps).bind fun found =>
            next found.stop found.captures
        | _ => matchLoop fuel flags (greed == .lazy) least most body 0 none cur caps next

/-- Matches a repetition after `count` rounds and then `k`; `last` is where the latest round
beyond the required ones began. -/
def matchLoop : Nat → Flags → Bool → Nat → Option Nat → List Node → Nat → Option Nat →
    Cursor α → Captures α → Rest α → Option (Found α)
  | 0, _, _, _, _, _, _, _, _, _, _ => none
  | fuel + 1, flags, isLazy, least, most, body, count, last, cur, caps, k =>
    if count < least then
      matchNodes fuel flags body cur caps fun cur' caps' =>
        matchLoop fuel flags isLazy least most body (count + 1) last cur' caps' k
    else
      let again : Unit → Option (Found α) := fun _ =>
        if most.all (count < ·) && last != some cur.pos then
          matchNodes fuel flags body cur caps fun cur' caps' =>
            matchLoop fuel flags isLazy least most body (count + 1) (some cur.pos) cur' caps' k
        else none
      if isLazy then (k cur caps).or (again ())
      else
        match again () with
        | some found => some found
        | none => k cur caps

/-- Matches as many rounds as possible, keeping the first way each of them matches. -/
def matchRounds : Nat → Flags → Nat → Option Nat → List Node → Nat → Option Nat → Cursor α →
    Captures α → Option (Found α)
  | 0, _, _, _, _, _, _, _, _ => none
  | fuel + 1, flags, least, most, body, count, last, cur, caps =>
    if count < least then
      (matchNodes fuel flags body cur caps .done).bind fun found =>
        matchRounds fuel flags least most body (count + 1) last found.stop found.captures
    else if most.all (count < ·) && last != some cur.pos then
      match matchNodes fuel flags body cur caps .done with
      | some found =>
        matchRounds fuel flags least most body (count + 1) (some cur.pos) found.stop found.captures
      | none => some ⟨cur, caps⟩
    else some ⟨cur, caps⟩

end

mutual

/-- A bound on the depth of the search through a node, in a text of `n` letters. -/
def Node.depth (n : Nat) : Node → Nat
  | .group _ _ _ body | .atomic body | .look _ _ body => Node.depthAll n body + 1
  | .choice _ yes no => Node.depthAll n yes + Node.depthAll n no + 1
  | .either branches => Node.depthAny n branches + 1
  | .loop _ least _ body => (least + n + 3) * (Node.depthAll n body + 2) + 1
  | _ => 1

/-- A bound on the depth of the search through nodes in sequence. -/
def Node.depthAll (n : Nat) : List Node → Nat
  | [] => 1
  | node :: rest => Node.depth n node + Node.depthAll n rest + 1

/-- A bound on the depth of the search through alternatives. -/
def Node.depthAny (n : Nat) : List (List Node) → Nat
  | [] => 1
  | branch :: rest => Node.depthAll n branch + Node.depthAny n rest

end

/-- Matches a program at a place.  With `advance`, a match has to use up something. -/
def Program.matchAt (program : Program) (depth : Nat) (advance : Bool) (cur : Cursor α) :
    Option (Found α) :=
  matchNodes depth program.flags program.body cur [] fun cur' caps =>
    if advance && cur'.pos == cur.pos then none else some ⟨cur', caps⟩

end ReleaseSearch.Pattern
