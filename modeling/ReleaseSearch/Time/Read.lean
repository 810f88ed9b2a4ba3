import ReleaseSearch.Time.Calendar
import ReleaseSearch.Decimal.Double
import ReleaseSearch.Text.Digit
import ReleaseSearch.Text.Utf8

/-!
# Reading dates

`readStrict?` reads the calendar, week and compact forms of a date with an optional time.
`readLenient?` reads a date and time written in full, with some freedom about letters and signs,
or a number of seconds or milliseconds since 1970.
-/

namespace ReleaseSearch.Time

open ReleaseSearch.Text

/-- The value of `n` digits at the start of `cs`, and the rest. -/
def digits? : Nat → List Char → Option (Nat × List Char) :=
  fun n cs =>
    let ds := cs.take n
    if ds.length = n ∧ ds.all isAsciiDigit then
      some (ofDigits (ds.map fun c => c.toNat - 48), cs.drop n)
    else none

/-! ## The strict forms -/

/-- Where the date ends in a text of bytes. -/
def dateLength (bytes : List Char) : Option Nat :=
  let length := bytes.length
  let isDigitAt (i : Nat) : Bool := (bytes[i]?.map isAsciiDigit).getD false
  if length = 7 then some 7
  else if bytes[4]? == some '-' then
    if bytes[5]? == some 'W' then
      if bytes[8]? == some '-' then
        if length = 9 then none else if isDigitAt 10 then some 8 else some 10
      else some 8
    else some 10
  else if bytes[4]? == some 'W' then
    let stop := 7 + ((bytes.drop 7).takeWhile isAsciiDigit).length
    if stop < 9 then some stop else if stop % 2 = 0 then some 7 else some 8
  else some 8

/-- Reads a date that takes up the first `length` bytes. -/
def readDate? (length : Nat) (bytes : List Char) : Option Date := do
  let (year, rest) ← digits? 4 bytes
  let (hyphen, rest) : Bool × List Char :=
    match rest with
    | '-' :: rest => (true, rest)
    | _ => (false, rest)
  match rest with
  | 'W' :: rest =>
    let (week, rest) ← digits? 2 rest
    if bytes.length - rest.length < length then
      let rest ←
        if hyphen then
          match rest with
          | '-' :: rest => some rest
          | _ => none
        else some rest
      let (day, _) ← digits? 1 rest
      Date.ofWeek? year week day
    else Date.ofWeek? year week 1
  | _ =>
    let (month, rest) ← digits? 2 rest
    let rest ←
      if hyphen then
        match rest with
        | '-' :: rest => some rest
        | _ => none
      else some rest
    let (day, rest) ← digits? 2 rest
    if bytes.length - rest.length = length then Date.of? year month day else none

/-- A time of day: hour, minute, second and microsecond. -/
structure Clock where
  hour : Nat := 0
  minute : Nat := 0
  second : Nat := 0
  microsecond : Nat := 0

def Clock.set (c : Clock) (rank value : Nat) : Clock :=
  match rank with
  | 0 => { c with hour := value }
  | 1 => { c with minute := value }
  | _ => { c with second := value }

/-- Reads the digits after the point of a time, the first six of which count; answers whether
nothing follows them. -/
def readFraction? (clock : Clock) (cs : List Char) : Option (Clock × Bool) := do
  let count := min 6 cs.length
  let (value, rest) ← digits? count cs
  if count = 0 then none
  else
    let scaled := value * Nat.pow 10 (6 - count)
    return ({ clock with microsecond := scaled }, (rest.dropWhile isAsciiDigit).isEmpty)

/-- Reads the parts of a time from one rank on.  With colons, they stand between all parts. -/
def readClockFrom? (colons : Option Bool) (clock : Clock) :
    (left rank : Nat) → List Char → Option (Clock × Bool)
  | 0, _, cs => readFraction? clock cs
  | left + 1, rank, cs => do
    let (value, rest) ← digits? 2 cs
    let clock := clock.set rank value
    match rest with
    | [] => return (clock, true)
    | [_] => return (clock, false)
    | c :: more =>
      let colons := colons.getD (c == ':')
      if colons && c == ':' then readClockFrom? (some colons) clock left (rank + 1) more
      else if c == '.' || c == ',' then readFraction? clock more
      else if colons then none
      else readClockFrom? (some colons) clock left (rank + 1) rest

/-- Reads a time; answers whether nothing follows it. -/
def readClock? (cs : List Char) : Option (Clock × Bool) := readClockFrom? none {} 3 0 cs

def startsOffset (c : Char) : Bool := c == '+' || c == '-' || c == 'Z'

/-- Reads a time of day with an optional offset. -/
def readTime? (cs : List Char) : Option (Clock × Option Int) := do
  let first := cs.take 1
  let length :=
    if (first.head?.map startsOffset).getD false then 0
    else (cs.takeWhile (!startsOffset ·)).length
  let (clock, complete) ← readClock? (cs.take length)
  match cs.drop length with
  | [] => if complete then return (clock, none) else none
  | 'Z' :: rest => if rest.isEmpty then return (clock, some 0) else none
  | sign :: rest =>
    let (offset, complete) ← readClock? rest
    if !complete then none
    else
      let seconds : Int := offset.hour * 3600 + offset.minute * 60 + offset.second
      let total := if seconds = 0 then 0 else seconds * 1000000 + offset.microsecond
      return (clock, some (if sign == '-' then -total else total))

/-- The number of bytes of a character, by its first one. -/
def bytesOf (first : Char) : Nat :=
  let n := first.toNat
  if n < 128 then 1 else if n / 16 = 14 then 3 else if n / 16 = 15 then 4 else 2

/-- Reads a date with an optional time; one character stands between them. -/
def readStrict? (s : String) : Option Moment := do
  let bytes := (Utf8.encode s.toList).map fun b => Char.ofNat b.toNat
  if bytes.length < 7 then none
  else
    let length ← dateLength bytes
    let date ← readDate? length bytes
    match bytes.drop length with
    | [] => return date.midnight
    | c :: rest =>
      let (clock, offset) ← readTime? ((c :: rest).drop (bytesOf c))
      Moment.of? date clock.hour clock.minute clock.second clock.microsecond offset

/-! ## The lenient forms -/

/-- Numbers beyond this count milliseconds, and others seconds. -/
def watershed : Int := 20000000000

def ofStamp? (n : Int) : Option Moment :=
  Moment.ofMicroseconds? (if n.natAbs ≤ watershed.natAbs then n * 1000000 else n * 1000)

/-- The moment that a number with a fraction stands for. -/
def ofStampFloat? (x : Float) : Option Moment := do
  let big := x.abs > Float.ofInt watershed
  let seconds := if big then x / 1000 else x
  let whole ← Decimal.floor? seconds
  let part ← Decimal.floor? (((seconds - Float.ofInt whole) * 1000000) + 0.5)
  if whole.natAbs > 400000000000 then none else Moment.ofMicroseconds? (whole * 1000000 + part)

/-- A number: a whole one, or one with a point. -/
inductive Stamp where
  | whole (n : Int)
  | broken (x : Float)

/-- Adds the digits after a point to a number, one after the other. -/
def addDigits : Float → Float → List Char → Float
  | x, _, [] => x
  | x, scale, c :: cs => addDigits (x + Float.ofNat (c.toNat - 48) / scale) (scale * 10) cs

/-- Reads a number of digits with an optional sign and an optional point. -/
def readStamp? (cs : List Char) : Option Stamp :=
  let (negative, body) : Bool × List Char :=
    match cs with
    | '-' :: rest => (true, rest)
    | '+' :: rest => (false, rest)
    | _ => (false, cs)
  let ds := body.takeWhile isAsciiDigit
  if ds.isEmpty then none
  else
    let n : Int := ofDigits (ds.map fun c => c.toNat - 48)
    if n ≥ Int.pow 2 63 then none
    else
      match body.drop ds.length with
      | [] => some (.whole (if negative then -n else n))
      | '.' :: rest =>
        if rest.all isAsciiDigit then
          let x := addDigits (Float.ofInt n) 10 rest
          some (.broken (if negative then -x else x))
        else none
      | _ => none

/-- Reads an offset: hours and minutes with or without a colon. -/
def readOffset? (cs : List Char) : Option Int := do
  let (negative, rest) ←
    match cs with
    | '+' :: rest => some (false, rest)
    | '-' :: rest => some (true, rest)
    | '−' :: rest => some (true, rest)
    | _ => none
  let (hour, rest) ← digits? 2 rest
  let rest :=
    match rest with
    | ':' :: more => more
    | _ => rest
  let (minute, rest) ← digits? 2 rest
  if !rest.isEmpty || minute ≥ 60 then none
  else
    let total : Int := (hour * 3600 + minute * 60) * 1000000
    return if negative then -total else total

def readFull? (cs : List Char) : Option Moment := do
  let (year, rest) ← digits? 4 cs
  let hyphen (cs : List Char) : Option (List Char) :=
    match cs with
    | '-' :: rest => some rest
    | _ => none
  let (month, rest) ← digits? 2 (← hyphen rest)
  let (day, rest) ← digits? 2 (← hyphen rest)
  let date ← Date.of? year month day
  match rest with
  | [] => return date.midnight
  | c :: rest =>
    if !(c == 'T' || c == 't' || c == ' ' || c == '_') then none
    else
      let (hour, rest) ← digits? 2 rest
      let colon (cs : List Char) : Option (List Char) :=
        match cs with
        | ':' :: rest => some rest
        | _ => none
      let (minute, rest) ← digits? 2 (← colon rest)
      let (second, rest) ←
        match rest with
        | ':' :: more => digits? 2 more
        | _ => some (0, rest)
      let hasSecond := cs.length - rest.length > 16
      let (micro, rest) ←
        match rest with
        | p :: more =>
          if hasSecond && (p == '.' || p == ',') then
            let ds := more.takeWhile isAsciiDigit
            if ds.isEmpty then none
            else
              let kept := ds.take 6
              some (ofDigits (kept.map fun c => c.toNat - 48) * Nat.pow 10 (6 - kept.length),
                more.drop ds.length)
          else some (0, rest)
        | [] => some (0, rest)
      let offset ←
        match rest with
        | [] => some none
        | ['Z'] => some (some 0)
        | ['z'] => some (some 0)
        | _ => (readOffset? rest).map some
      Moment.of? date hour minute second micro offset

/-- Reads a date and time written in full, or a number of seconds or milliseconds. -/
def readLenient? (s : String) : Option Moment :=
  match readFull? s.toList with
  | some found => some found
  | none =>
    match readStamp? s.toList with
    | some (.whole n) => ofStamp? n
    | some (.broken x) => ofStampFloat? x
    | none => none

end ReleaseSearch.Time
