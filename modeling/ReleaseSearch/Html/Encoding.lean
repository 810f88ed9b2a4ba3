import ReleaseSearch.Html.Tree
import ReleaseSearch.Pattern.Search

/-!
# The encoding of a document

A document given as bytes is read in the first encoding that fits all of them: the one its byte
order mark shows, the one it declares, UTF-8, and the code page 1252.  If none fits, the first of
them is used with replacement characters.
-/

namespace ReleaseSearch.Html

open ReleaseSearch.Text

/-- The encoding that a byte order mark shows, and the bytes after the mark. -/
def markedCharset : List UInt8 → Option Charset × List UInt8
  | 0xef :: 0xbb :: 0xbf :: bs => (some (.utf8 false), bs)
  | 0 :: 0 :: 0xfe :: 0xff :: bs => (some (.utf32 (some true)), bs)
  | 0xff :: 0xfe :: 0 :: 0 :: bs => (some (.utf32 (some false)), bs)
  | 0xfe :: 0xff :: a :: b :: bs => (some (.utf16 (some true)), a :: b :: bs)
  | 0xff :: 0xfe :: a :: b :: bs => (some (.utf16 (some false)), a :: b :: bs)
  | bs => (none, bs)

/-- Where an XML document declares its encoding. -/
def xmlDeclaration : String := "(?ai)^\\s*<\\?.*encoding=['\"](.*?)['\"].*\\?>"

/-- Where a `meta` tag declares the encoding. -/
def metaDeclaration : String := "(?ai)<\\s*meta[^>]+charset\\s*=\\s*[\"']?([^>]*?)[ /;'\">]"

/-- The name of the encoding that a document declares near its start. -/
def declaredName? (bs : List UInt8) : Option String :=
  let cs := (bs.take (max 2048 (bs.length / 20))).map fun b => Char.ofNat b.toNat
  let name :=
    (Pattern.firstGroup? xmlDeclaration (cs.take 1024)).or (Pattern.firstGroup? metaDeclaration cs)
  match name with
  | some (c :: more) => some (String.ofList (c :: more)).toLower
  | _ => none

/-- The character set that a declared name stands for, with or without its hyphens. -/
def declaredCharset? (name : String) : Option Charset :=
  let plain := if name == "macintosh" then "mac-roman" else name
  (Charset.named? plain).or (Charset.named? (replace "-" "" name))

/-- The encoding and the characters of a document given as bytes. -/
def decode (bs : List UInt8) : Charset × List Char :=
  let (mark, rest) := markedCharset bs
  let declared := (declaredName? rest).bind declaredCharset?
  let western : Charset := (Charset.named? "windows-1252").getD Charset.latin1
  let tries := mark.toList ++ declared.toList ++ [.utf8 false, western]
  match tries.findSome? fun charset => (charset.decode? rest).map fun cs => (charset, cs) with
  | some found => found
  | none =>
    let charset := (tries.find? (· != Charset.ascii)).getD (.utf8 false)
    (charset, charset.decodeLossy rest)

/-- The body of a page: text, or bytes whose encoding has to be found. -/
inductive Source where
  | text (cs : List Char)
  | bytes (bs : List UInt8)

def Source.read : Source → Except Fault Element
  | .text cs => Element.read none cs
  | .bytes bs =>
    let (charset, cs) := decode bs
    Element.read (some charset) cs

end ReleaseSearch.Html
