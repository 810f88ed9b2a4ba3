import ReleaseSearch.Data.Basic
import ReleaseSearch.Decimal.Layout
import ReleaseSearch.Decimal.Read
import ReleaseSearch.Failure
import ReleaseSearch.Text.Case

/-!
# Messages with arguments

A message may have places for arguments: a `%`, perhaps the name of an argument in parentheses, how
to lay the argument out, and a letter for the kind of text that is made of it.
-/

namespace ReleaseSearch.Message

open Text Decimal

inductive Arguments where
  | items (rest : List Data)
  /-- Arguments with names, and the value that is next. -/
  | named (entries : Entries) (next : Option Data)

namespace Arguments

def next : Arguments → Except Breakdown (Data × Arguments)
  | .items (d :: rest) => .ok (d, .items rest)
  | .named entries (some d) => .ok (d, .named entries none)
  | _ => .error .badKind

def choose (name : String) : Arguments → Except Breakdown Arguments
  | .items _ => .error .badKind
  | .named entries _ =>
    match Data.find? name entries with
    | some d => .ok (.named entries (some d))
    | none => .error .noEntry

def areUsed : Arguments → Bool
  | .items rest => rest.isEmpty
  | .named .. => true

/-- The arguments of a message; a single map gives its entries. -/
def ofList : List Data → Arguments
  | [.map (entry :: entries)] => .named (entry :: entries) (some (.map (entry :: entries)))
  | args => .items args

end Arguments

/-! ## Reading the places -/

def readName : Nat → List Char → List Char → Option (List Char × List Char)
  | _, _, [] => none
  | depth, name, c :: rest =>
    if c = ')' then
      match depth with
      | 0 => some (name.reverse, rest)
      | depth + 1 => readName depth (c :: name) rest
    else readName (if c = '(' then depth + 1 else depth) (c :: name) rest

def readFlags : Layout → List Char → Layout × List Char
  | l, '-' :: rest => readFlags { l with isLeft := true } rest
  | l, '+' :: rest => readFlags { l with hasPlus := true } rest
  | l, ' ' :: rest => readFlags { l with hasBlank := true } rest
  | l, '#' :: rest => readFlags { l with isFull := true } rest
  | l, '0' :: rest => readFlags { l with hasZeros := true } rest
  | l, rest => (l, rest)

/-- Reads a number, or takes it from the arguments; `none` if there is none. -/
def readCount (args : Arguments) : List Char → Except Breakdown (Option Int × Arguments × List Char)
  | '*' :: rest => do
    let (d, args) ← args.next
    match d with
    | .int n => return (some n, args, rest)
    | .bool b => return (some (if b then 1 else 0), args, rest)
    | _ => throw .badKind
  | cs =>
    let digits := cs.takeWhile isAsciiDigit
    .ok (if digits.isEmpty then none else some (digitsValue digits), args, cs.drop digits.length)

def readLayout (args : Arguments) (cs : List Char) :
    Except Breakdown (Layout × Arguments × List Char) := do
  let (l, cs) := readFlags {} cs
  let (width, args, cs) ← readCount args cs
  let l :=
    match width with
    | some n => { l with isLeft := l.isLeft || n < 0, width := n.natAbs }
    | none => l
  let (l, args, cs) ←
    match cs with
    | '.' :: rest => do
      let (precision, args, rest) ← readCount args rest
      pure ({ l with precision := some (precision.getD 0).toNat }, args, rest)
    | cs => pure (l, args, cs)
  let cs := match cs with
    | c :: rest => if c = 'h' ∨ c = 'l' ∨ c = 'L' then rest else cs
    | [] => []
  return (l, args, cs)

/-! ## Making text of arguments -/

def asciiText (s : String) : List Char :=
  s.toList.flatMap fun c => if c.toNat < 128 then [c] else numericEscape c

def wholePart : Data → Except Breakdown Int
  | .int n => .ok n
  | .bool b => .ok (if b then 1 else 0)
  | .float x =>
    match truncate? x with
    | some n => .ok n
    | none => .error (if x == x then .tooLarge else .badValue none)
  | _ => .error .badKind

def wholeNumber : Data → Except Breakdown Int
  | .int n => .ok n
  | .bool b => .ok (if b then 1 else 0)
  | _ => .error .badKind

def realNumber (d : Data) : Except Breakdown Float :=
  match d.number? with
  | some n => n.toFloat?.elim (.error .tooLarge) .ok
  | none => .error .badKind

def singleChar : Data → Except Breakdown (List Char)
  | .text s => if s.length = 1 then .ok s.toList else .error .badKind
  | .int n => if 0 ≤ n ∧ n < 0x110000 then .ok [Char.ofNat n.toNat] else .error .tooLarge
  | .bool b => .ok [Char.ofNat (if b then 1 else 0)]
  | _ => .error .badKind

/-- A text, cut to the precision and filled up. -/
def laidText (l : Layout) (cs : List Char) : List Char :=
  l.fill (match l.precision with
    | some n => cs.take n
    | none => cs)

def capital (cs : List Char) : List Char := (upper (String.ofList cs)).toList

/-- The text that a letter makes of an argument. -/
def render (l : Layout) (letter : Char) (d : Data) : Except Breakdown (List Char) :=
  match letter with
  | 's' => .ok (laidText l d.display.toList)
  | 'r' => .ok (laidText l d.quoted.toList)
  | 'a' => .ok (laidText l (asciiText d.quoted))
  | 'c' => do return l.fill (← singleChar d)
  | 'd' | 'i' | 'u' => do return l.whole 10 [] (← wholePart d)
  | 'x' => do return l.whole 16 ['0', 'x'] (← wholeNumber d)
  | 'X' => do return capital (l.whole 16 ['0', 'x'] (← wholeNumber d))
  | 'o' => do return l.whole 8 ['0', 'o'] (← wholeNumber d)
  | 'f' => do return l.real .fixed (← realNumber d)
  | 'F' => do return capital (l.real .fixed (← realNumber d))
  | 'e' => do return l.real .scientific (← realNumber d)
  | 'E' => do return capital (l.real .scientific (← realNumber d))
  | 'g' => do return l.real .general (← realNumber d)
  | 'G' => do return capital (l.real .general (← realNumber d))
  | _ => .error (.badValue none)

/-- Fills the places of a message; `fuel` is at least its length. -/
def fillFrom : Nat → Arguments → List Char → Except Breakdown (List Char)
  | _, args, [] => if args.areUsed then .ok [] else .error .badKind
  | 0, _, _ => .ok []
  | fuel + 1, args, '%' :: rest => do
    let (args, rest) ←
      match rest with
      | '(' :: more => do
        match args with
        | .items _ => throw .badKind
        | .named .. =>
          match readName 0 [] more with
          | some (name, more) => pure (← args.choose (String.ofList name), more)
          | none => throw (.badValue none)
      | rest => pure (args, rest)
    let (l, args, rest) ← readLayout args rest
    match rest with
    | [] => throw (.badValue none)
    | '%' :: rest => return '%' :: (← fillFrom fuel args rest)
    | letter :: rest =>
      let (d, args) ← args.next
      let text ← render l letter d
      return text ++ (← fillFrom fuel args rest)
  | fuel + 1, args, c :: rest => do return c :: (← fillFrom fuel args rest)

/-- A message with its arguments; without arguments it stands as it is. -/
def fill (message : String) (args : List Data) : Except Breakdown String :=
  if args.isEmpty then .ok message
  else do
    let cs := message.toList
    return String.ofList (← fillFrom cs.length (.ofList args) cs)

end ReleaseSearch.Message
