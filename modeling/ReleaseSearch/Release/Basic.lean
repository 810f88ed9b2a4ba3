import ReleaseSearch.Quality.Basic
import ReleaseSearch.Failure
import ReleaseSearch.Text.Line

/-!
# Releases

A release is one result of a search in its final form.
-/

namespace ReleaseSearch

open Decimal Time

/-- A detail that a release has no place for: data, or what a page says that is no text. -/
inductive Detail where
  | data (d : Data)
  | broken (b : Text.Broken)

namespace Detail

def ofLine : Text.Line → Detail
  | .whole s => .data (.text s)
  | .broken b => .broken b

/-- A detail in records, which hold no halves. -/
def toData : Detail → Data
  | .data d => d
  | .broken b => .text (Text.Line.broken b).softened

end Detail

/-- A result of a search.  Its title and its link are texts; what else was taken from a page may be
any line. -/
structure Release where
  title : String
  /-- The name of the indexer that returned it. -/
  indexer : String
  /-- The size in bytes. -/
  size : Nat := 0
  seeders : Nat := 0
  leechers : Nat := 0
  downloadUrl : String
  infoUrl : Option Text.Line := none
  publishedAt : Option Moment := none
  category : Option Int := none
  imdbId : Option Text.Line := none
  tmdbId : Option Int := none
  quality : Option Quality := none
  /-- What else the indexer tells. -/
  metadata : Option (List (String × Detail)) := none

namespace Release

open Schema

def line (d : Data) : Check Text.Line := (text d).map .whole

def details (d : Data) : Check (List (String × Detail)) :=
  (freeDictionary d).map (·.map fun entry => (entry.1, .data entry.2))

def read (es : Entries) : Check Release :=
  Release.mk <$> need es "title" filledText <*> need es "indexer" text
    <*> take es "size" 0 natural <*> take es "seeders" 0 natural <*> take es "leechers" 0 natural
    <*> need es "download_url" filledText <*> take es "info_url" none (nullable line)
    <*> take es "published_at" none (nullable moment) <*> take es "category" none (nullable int)
    <*> take es "imdb_id" none (nullable line) <*> take es "tmdb_id" none (nullable int)
    <*> take es "quality" none (nullable (record Quality.read))
    <*> take es "metadata" none (nullable details)

/-- The record of a release.  Halves are softened in it. -/
def toData (r : Release) : Data :=
  let text (line : Text.Line) : Data := .text line.softened
  let detail (entry : String × Detail) : String × Data := (entry.1, entry.2.toData)
  .object [("title", .text r.title), ("indexer", .text r.indexer), ("size", .int r.size),
    ("seeders", .int r.seeders), ("leechers", .int r.leechers),
    ("download_url", .text r.downloadUrl), ("info_url", .optional text r.infoUrl),
    ("published_at", .optional .moment r.publishedAt), ("category", .optional .int r.category),
    ("imdb_id", .optional text r.imdbId), ("tmdb_id", .optional .int r.tmdbId),
    ("quality", .optional Quality.toData r.quality),
    ("metadata", .optional (fun entries => .object (entries.map detail)) r.metadata)]

/-! ## Measures -/

/-- How likely a download is to complete, from 0 to 1: the share of seeders among all peers and a
bonus for their number.  Without seeders it is 0.1 if there are peers at all. -/
def health (r : Release) : Except Breakdown Float :=
  if r.seeders + r.leechers = 0 then .ok 0
  else if r.seeders = 0 then .ok (0.1)
  else
    match ofQuotient? r.seeders (r.seeders + r.leechers), ofQuotient? r.seeders 100 with
    | some share, some bonus =>
      let sum := share + bonus
      .ok (if sum < 1 then sum else 1)
    | _, _ => .error .tooLarge

/-- The names of the units of size above the byte, each 1024 times the one before. -/
def sizeUnits : List (Nat × String) :=
  [(1024, " KB"), (Nat.pow 1024 2, " MB"), (Nat.pow 1024 3, " GB")]

/-- A size for people, with one decimal place. -/
def sizeText (r : Release) : Except Breakdown String :=
  if r.size < 1024 then .ok (intText r.size ++ " B")
  else
    let (unit, label) :=
      (sizeUnits.find? fun unit => r.size < 1024 * unit.1).getD (Nat.pow 1024 3, " GB")
    match ofQuotient? r.size unit with
    | some x => .ok (fixedText 1 x ++ label)
    | none => .error .tooLarge

def qualityText (r : Release) : String :=
  match r.quality with
  | none => "Unknown"
  | some quality => if quality.description = "" then "Unknown" else quality.description

end Release

end ReleaseSearch
