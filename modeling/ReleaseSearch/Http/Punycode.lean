import ReleaseSearch.Decimal.Shortest

/-!
# Punycode

A label of a host name that has characters beyond ASCII is written in ASCII: first its ASCII
characters, then, for each of the others in the order of their code points, the distance to it from
the one before.  Distances are numbers in 36 digits whose places have thresholds that adapt.
-/

namespace ReleaseSearch.Http.Punycode

/-- A digit: 26 letters, then ten numerals. -/
def digit (n : Nat) : Char := if n < 26 then Char.ofNat (97 + n) else Char.ofNat (22 + n)

def threshold (place bias : Nat) : Nat :=
  if place ≤ bias then 1 else if bias + 26 ≤ place then 26 else place - bias

theorem threshold_pos (place bias : Nat) : 1 ≤ threshold place bias := by
  unfold threshold; grind

def digits (bias place n : Nat) : List Char :=
  let t := threshold place bias
  if n < t then [digit n]
  else digit (t + (n - t) % (36 - t)) :: digits bias (place + 36) ((n - t) / (36 - t))
termination_by n
decreasing_by
  have := threshold_pos place bias
  have : (n - threshold place bias) / (36 - threshold place bias) ≤ n - threshold place bias :=
    Nat.div_le_self _ _
  omega

/-- Divides a distance until it is small, and counts 36 for each division. -/
def shrink (delta count : Nat) : Nat × Nat :=
  if 455 < delta then shrink (delta / 35) (count + 36) else (delta, count)
termination_by delta
decreasing_by omega

/-- The bias after a distance, of which so many were written. -/
def adapt (delta written : Nat) (isFirst : Bool) : Nat :=
  let halved := if isFirst then delta / 700 else delta / 2
  let (rest, count) := shrink (halved + halved / written) 0
  count + 36 * rest / (rest + 38)

/-- Where writing a label stands. -/
structure State where
  output : List Char
  delta : Nat := 0
  bias : Nat := 72
  /-- How many characters of the label are written. -/
  written : Nat

/-- Goes past one character of the label on the way to the code point `point`. -/
def State.pass (basic point : Nat) (s : State) (c : Char) : State :=
  if c.toNat < point then { s with delta := s.delta + 1 }
  else if c.toNat = point then
    { output := s.output ++ digits s.bias 36 s.delta
      delta := 0
      bias := adapt s.delta (s.written + 1) (s.written == basic)
      written := s.written + 1 }
  else s

/-- Writes the code points that are left, the smallest first; `next` is the first one that was not
looked at. -/
def State.writeAll (label : List Char) (basic : Nat) : List Nat → Nat → State → State
  | [], _, s => s
  | point :: rest, next, s =>
    let start := { s with delta := s.delta + (point - next) * (s.written + 1) }
    let done := label.foldl (State.pass basic point) start
    writeAll label basic rest (point + 1) { done with delta := done.delta + 1 }

def encode (label : List Char) : List Char :=
  let basic := label.filter (·.toNat < 128)
  let points := ((label.filter (128 ≤ ·.toNat)).map (·.toNat)).mergeSort.eraseDups
  let start := if basic.isEmpty then [] else basic ++ ['-']
  (State.writeAll label basic.length points 128 { output := start, written := basic.length }).output

end ReleaseSearch.Http.Punycode
