import ReleaseSearch.Data.Wording
import ReleaseSearch.Request.Options
import ReleaseSearch.Request.Percent
import ReleaseSearch.Text.Substring

/-!
# Templates

A template is a text with placeholders.  Each placeholder is replaced everywhere before the next
one is looked for, in the order of `Placeholder.all`.  What they stand for is put in words before
that, and a number that is too long for words keeps every template from being filled.
-/

namespace ReleaseSearch.Template

open Text Decimal

inductive Placeholder where
  | keywords
  | series
  | season
  | episode
  | imdbId
  | tmdbId
  | categories
  deriving DecidableEq, Repr

namespace Placeholder

/-- All placeholders, in the order of their replacement. -/
def all : List Placeholder := [keywords, series, season, episode, imdbId, tmdbId, categories]

def name : Placeholder → String
  | keywords => ".Keywords"
  | series => ".Query.Series"
  | season => ".Query.Season"
  | episode => ".Query.Ep"
  | imdbId => ".Query.IMDBID"
  | tmdbId => ".Query.TMDBID"
  | categories => ".Categories"

def written (p : Placeholder) : String := "\x7b\x7b " ++ p.name ++ " \x7d\x7d"

end Placeholder

def keywords : String := Placeholder.keywords.written

def categories : String := Placeholder.categories.written

/-- The placeholder for what is searched for, as it was typed. -/
def rawKeywords : String := "$raw:" ++ keywords

/-- The query, encoded if it becomes part of an address. -/
def queryText (encode : Bool) (options : SearchOptions) : String :=
  if encode then Percent.encodeText options.query else options.query

def numberWords : Option Int → Except Breakdown String
  | none => .ok ""
  | some n => (Data.int n).inWords

/-- What a placeholder stands for, in words, where the query is written in some way. -/
def given (query : String) (options : SearchOptions) : Placeholder → Except Breakdown String
  | .keywords | .series => .ok query
  | .season => numberWords (options.season.map fun (n : Nat) => n)
  | .episode => numberWords (options.episode.map fun (n : Nat) => n)
  | .imdbId => .ok (options.imdbId.getD "")
  | .tmdbId => numberWords options.tmdbId
  | .categories => do
    return ",".intercalate (← options.categories.mapM fun n => (Data.int n).inWords)

/-- Replaces the placeholders of a template.  A template that is not encoded may also ask for the
query as it was typed. -/
def fill (encode : Bool) (options : SearchOptions) (template : String) :
    Except Breakdown String := do
  let start := if encode then template else replace rawKeywords options.query template
  let words ← Placeholder.all.mapM fun p => do
    return (p, ← given (queryText encode options) options p)
  return words.foldl (fun s entry => replace entry.1.written entry.2 s) start

end ReleaseSearch.Template
