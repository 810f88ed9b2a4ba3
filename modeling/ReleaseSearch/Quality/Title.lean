import ReleaseSearch.Quality.Basic
import ReleaseSearch.Quality.Mark
import ReleaseSearch.Log.Basic
import ReleaseSearch.Text.Line

/-!
# The quality that a title tells

Every property of a quality has a table of labels with the marks that stand for them.  The first
label of which a mark is in the title counts.
-/

namespace ReleaseSearch.Quality

open Mark

abbrev Table := List (String × List Mark)

/-- The names of resolutions; interlaced and market names stand for the progressive one. -/
def resolutions : Table :=
  [("2160p", [word "2160" ++ oneOf "pi", whole (word "4k"), whole (word "uhd")]),
    ("1080p", [word "1080" ++ oneOf "pi"]),
    ("720p", [word "720" ++ oneOf "pi"]),
    ("576p", [word "576" ++ oneOf "pi"]),
    ("480p", [word "480" ++ oneOf "pi"]),
    ("360p", [word "360" ++ oneOf "pi"])]

/-- The sources, the more specific ones first. -/
def sources : Table :=
  [("REMUX", [word "remux", word "bdremux"]),
    ("BluRay", [word "blu" ++ gap ++ word "ray", word "bdrip", word "brrip",
      whole (word "bd" ++ [.one .digit, .one .digit])]),
    ("WEB-DL", [word "web" ++ gap ++ word "dl", word "webdl"]),
    ("WEBRip", [word "webrip", word "web" ++ tie ++ word "rip"]),
    ("HDTV", [word "hdtv"]),
    ("DVDRip", [word "dvdrip", word "dvd" ++ tie ++ word "rip"]),
    ("DVD", [whole (word "dvd" ++ [.maybe (.oneOf ['r', '5', '9'])])]),
    ("HDRip", [word "hdrip", word "hd" ++ tie ++ word "rip"]),
    ("CAM", [whole (word "cam"), word "camrip", word "hdcam"]),
    ("TS", [word "telesync", word "hdts", whole (word "ts")])]

def codecs : Table :=
  let point : Mark := [.maybe (.char '.')]
  [("x265", [word "x265", word "hevc", word "h" ++ point ++ word "265"]),
    ("x264", [word "x264", whole (word "avc"), word "h" ++ point ++ word "264"]),
    ("AV1", [whole (word "av1")]),
    ("VP9", [whole (word "vp9")]),
    ("XviD", [word "xvid", word "divx"]),
    ("MPEG-2", [word "mpeg" ++ tieOrNothing ++ word "2"])]

def audios : Table :=
  [("TrueHD", [word "truehd", word "true" ++ tie ++ word "hd"]),
    ("Atmos", [word "atmos"]),
    ("DTS-HD MA", [word "dts" ++ tieOrNothing ++ word "hd" ++ tieOrNothing ++ word "ma",
      word "dts" ++ tieOrNothing ++ word "hdma"]),
    ("DTS-HD", [word "dts" ++ tieOrNothing ++ word "hd"]),
    ("DTS", [whole (word "dts")]),
    ("DD+", [start (word "dd+"), start (word "ddp"),
      word "e" ++ tieOrNothing ++ word "ac" ++ tieOrNothing ++ word "3"]),
    ("DD5.1", [start (word "dd5" ++ [.maybe (.blankOr ['.'])] ++ word "1"),
      start (word "ac" ++ tieOrNothing ++ word "3")]),
    ("AAC", [start (word "aac")]),
    ("FLAC", [whole (word "flac")]),
    ("Opus", [whole (word "opus")]),
    ("MP3", [whole (word "mp3")])]

def hdrMarks : List Mark :=
  [word "dolby" ++ gap ++ word "vision", whole (word "dv"), word "dovi",
    word "hdr10" ++ oneOf "+p", word "hdr10plus", word "hdr" ++ tieOrNothing ++ word "10",
    whole (word "hdr")]

def properMarks : List Mark := [whole (word "proper")]

/-- The marks of a release that was packed again. -/
def repackMarks : List Mark :=
  [whole (word "repack" ++ [.maybe .digit]), whole (word "rerip")]

def anyOccurs (marks : List Mark) (title : List Char) : Bool := marks.any (·.occursIn title)

/-- The first label of a table of which a mark is in a title. -/
def firstLabel? (table : Table) (title : List Char) : Option String :=
  (table.find? fun row => anyOccurs row.2 title).map (·.1)

def signals (title : List Char) : Quality where
  resolution := firstLabel? resolutions title
  source := firstLabel? sources title
  codec := firstLabel? codecs title
  audio := firstLabel? audios title
  hdr := anyOccurs hdrMarks title
  proper := anyOccurs properMarks title
  repack := anyOccurs repackMarks title

/-- The quality that a title tells, if it tells any. -/
def ofTitle? (title : String) : Option Quality :=
  let quality := signals title.toList
  if quality = {} then none else some quality

def entrySource : String := "scoutarr.services.quality_parser"

/-- The quality that a title tells, with an entry if a title tells none. -/
def extract (title : String) : Logged (Option Quality) := do
  let quality := ofTitle? title
  if quality.isNone && title != "" then
    Logged.note .debug entrySource ("No quality signal found in title: " ++ title)
  return quality

/-- A way to find the quality of a title; it may fail.  A title can be any line. -/
abbrev Extractor := Text.Line → Run (Option Quality)

/-- The quality that a line tells; halves are no part of any mark. -/
def ofLine? (title : Text.Line) : Option Quality := ofTitle? title.softened

/-- The way of this module, which never fails. -/
def standard : Extractor := fun title => ExceptT.lift (extract title.softened)

end ReleaseSearch.Quality
