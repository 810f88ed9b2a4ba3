import ReleaseSearch.Schema.Check

/-!
# Quality

What the title of a release tells about its picture and its sound.
-/

namespace ReleaseSearch

structure Quality where
  resolution : Option String := none
  source : Option String := none
  codec : Option String := none
  audio : Option String := none
  hdr : Bool := false
  proper : Bool := false
  repack : Bool := false
  deriving DecidableEq, Repr, Inhabited

namespace Quality

open Schema

/-- A short description: all that is known, in a fixed order. -/
def description (q : Quality) : String :=
  let labels := [q.resolution, q.source, q.codec, q.audio].filterMap id
  let flags := [(q.hdr, "HDR"), (q.proper, "PROPER"), (q.repack, "REPACK")].filterMap fun
    | (true, label) => some label
    | _ => none
  " ".intercalate ((labels ++ flags).filter (· != ""))

def read (es : Entries) : Check Quality :=
  Quality.mk <$> take es "resolution" none (nullable text) <*> take es "source" none (nullable text)
    <*> take es "codec" none (nullable text) <*> take es "audio" none (nullable text)
    <*> take es "hdr" false bool <*> take es "proper" false bool <*> take es "repack" false bool

def toData (q : Quality) : Data :=
  .object [("resolution", .optional .text q.resolution), ("source", .optional .text q.source),
    ("codec", .optional .text q.codec), ("audio", .optional .text q.audio), ("hdr", .bool q.hdr),
    ("proper", .bool q.proper), ("repack", .bool q.repack)]

end Quality

end ReleaseSearch
