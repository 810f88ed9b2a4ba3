/-!
# UTF-8

`encode` writes characters as bytes.  `decodeLossy` reads any bytes: each maximal piece that
starts no well-formed character becomes one replacement character.  `decode?` refuses such bytes.
-/

namespace ReleaseSearch.Text.Utf8

def replacement : Char := '\ufffd'

def encodeChar (c : Char) : List UInt8 :=
  let n := c.toNat
  if n < 0x80 then [UInt8.ofNat n]
  else if n < 0x800 then [UInt8.ofNat (0xc0 + n / 64), UInt8.ofNat (0x80 + n % 64)]
  else if n < 0x10000 then
    [UInt8.ofNat (0xe0 + n / 4096), UInt8.ofNat (0x80 + n / 64 % 64), UInt8.ofNat (0x80 + n % 64)]
  else
    [UInt8.ofNat (0xf0 + n / 262144), UInt8.ofNat (0x80 + n / 4096 % 64),
      UInt8.ofNat (0x80 + n / 64 % 64), UInt8.ofNat (0x80 + n % 64)]

def encode (cs : List Char) : List UInt8 := cs.flatMap encodeChar

/-- The first byte of a character fixes how many bytes follow and the range of the next one. -/
def leadRange (lead : Nat) : Option (Nat × Nat × Nat) :=
  if 0xc2 ≤ lead ∧ lead ≤ 0xdf then some (1, 0x80, 0xbf)
  else if lead = 0xe0 then some (2, 0xa0, 0xbf)
  else if lead = 0xed then some (2, 0x80, 0x9f)
  else if 0xe1 ≤ lead ∧ lead ≤ 0xef then some (2, 0x80, 0xbf)
  else if lead = 0xf0 then some (3, 0x90, 0xbf)
  else if lead = 0xf4 then some (3, 0x80, 0x8f)
  else if 0xf1 ≤ lead ∧ lead ≤ 0xf3 then some (3, 0x80, 0xbf)
  else none

/-- Reads up to `count` further bytes of a character whose value so far is `acc`, the next of
them between `lo` and `hi`.  Answers the value, if all were there, and how many bytes it used. -/
def continuation (count lo hi acc : Nat) (used : Nat) : List UInt8 → Option Nat × Nat
  | [] => (if count = 0 then some acc else none, used)
  | b :: bs =>
    match count with
    | 0 => (some acc, used)
    | count + 1 =>
      let n := b.toNat
      if lo ≤ n ∧ n ≤ hi then
        continuation count 0x80 0xbf (acc * 64 + (n - 0x80)) (used + 1) bs
      else (none, used)

/-- Reads the character that starts with `lead`; answers it, unless it is malformed, and the
number of bytes used after the first. -/
def readChar (lead : UInt8) (rest : List UInt8) : Option Char × Nat :=
  let n := lead.toNat
  if n < 0x80 then (some (Char.ofNat n), 0)
  else
    match leadRange n with
    | none => (none, 0)
    | some (count, lo, hi) =>
      let bits := if count = 1 then n - 0xc0 else if count = 2 then n - 0xe0 else n - 0xf0
      match continuation count lo hi bits 0 rest with
      | (some value, used) => (some (Char.ofNat value), used)
      | (none, used) => (none, used)

/-- The characters read from bytes, `none` for each malformed piece, after passing over `skip`
bytes that are already used. -/
def readFrom : Nat → List UInt8 → List (Option Char)
  | _, [] => []
  | skip + 1, _ :: bs => readFrom skip bs
  | 0, b :: bs => (readChar b bs).1 :: readFrom (readChar b bs).2 bs

/-- The characters of any bytes, with a replacement character for each malformed piece. -/
def decodeLossy (bs : List UInt8) : List Char :=
  (readFrom 0 bs).map (·.getD replacement)

def decode? (bs : List UInt8) : Option (List Char) :=
  (readFrom 0 bs).mapM id

/-- The bytes with the replacement character in the place of every surrogate that is written like a
character. -/
def replaceSurrogates : List UInt8 → List UInt8
  | 0xed :: b :: c :: rest =>
    if 0xa0 ≤ b && b ≤ 0xbf && 0x80 ≤ c && c ≤ 0xbf then
      0xef :: 0xbf :: 0xbd :: replaceSurrogates rest
    else 0xed :: replaceSurrogates (b :: c :: rest)
  | b :: rest => b :: replaceSurrogates rest
  | [] => []

end ReleaseSearch.Text.Utf8
