/-!
# Blank characters

The blank characters are those of the Unicode property `White_Space` together with the four
separators U+001C to U+001F.  `strip` removes a maximal run of them from both ends, and
`stripBy` does the same for any predicate.
-/

namespace ReleaseSearch.Text

/-- A blank character: a space, a line or paragraph separator, or one of the control characters
that separate lines, pages and records. -/
def isBlank (c : Char) : Bool :=
  let n := c.toNat
  (9 ≤ n && n ≤ 13) || (28 ≤ n && n ≤ 32) || n == 0x85 || n == 0xa0 || n == 0x1680 ||
    (0x2000 ≤ n && n ≤ 0x200a) || n == 0x2028 || n == 0x2029 || n == 0x202f || n == 0x205f ||
    n == 0x3000

/-- Whether `c` is blank at the ends of a written number, where separators are not. -/
def isNumberBlank (c : Char) : Bool := isBlank c && !(28 ≤ c.toNat && c.toNat ≤ 31)

/-- The six blank characters of ASCII text: tab, the line and page breaks, and the space. -/
def isAsciiBlank (c : Char) : Bool :=
  let n := c.toNat
  (9 ≤ n && n ≤ 13) || n == 32

/-- The letters of `cs` without the maximal run at the end that satisfies `p`. -/
def dropEndWhile {α : Type} (p : α → Bool) (cs : List α) : List α :=
  (cs.reverse.dropWhile p).reverse

/-- The letters of `cs` without the maximal runs at both ends that satisfy `p`. -/
def stripBy {α : Type} (p : α → Bool) (cs : List α) : List α :=
  dropEndWhile p (cs.dropWhile p)

/-- `s` without the blank characters at both ends. -/
def strip (s : String) : String :=
  String.ofList (stripBy isBlank s.toList)

end ReleaseSearch.Text
