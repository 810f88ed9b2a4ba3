import ReleaseSearch.Results.Read
import ReleaseSearch.Search.Execute

/-!
# Searching

A search executes a request and reads the releases from the response.  It ends in releases or in a
failure: whatever else goes wrong on the way becomes the failure of the search.  All of this is done
within a context of the search, which is left in the end.
-/

namespace ReleaseSearch.Search

open Decimal

/-- Where the entries of searches come from. -/
def source : String := "scoutarr.services.indexer_search"

/-- What has come of a search. -/
structure Outcome where
  /-- The releases or the failure that the search has ended in; `none` while it waits for its
  turn. -/
  result? : Option (Except Failure (List Release))
  visit : Limiter.Visit Float
  exchange : Option Http.Exchange

/-- The failure that a trouble is for a search, and the entry about it. -/
def settle (d : Definition) : Trouble → Failure × Entry
  | .failure f =>
    (f, { level := .warning
          source := source
          message := "Search on " ++ d.displayName ++ " failed (" ++ f.kind.code ++ "): "
            ++ f.message })
  | trouble =>
    (.search ("Unexpected error: " ++ trouble.text),
      { level := .error
        source := source
        message := "Unexpected error searching " ++ d.displayName ++ ": " ++ trouble.text })

section Reading

variable [Pattern.Library]

def readReleases (d : Definition) (extract : Quality.Extractor) (r : Http.Response) :
    Run (List Release) :=
  Results.ofBody d (.text r.text) (some d.displayName) extract

/-- Executes a search and reads the response. -/
def pipeline (s : Surroundings) (d : Definition) (options : SearchOptions)
    (extract : Quality.Extractor) (limiter : Limiter Float) (now : Float) (journal : Journal) :
    Progress (List Release) :=
  let sent := execute s d options limiter now journal
  match sent.outcome? with
  | none => { sent with outcome? := none }
  | some (.error trouble) => { sent with outcome? := some (.error trouble) }
  | some (.ok response) =>
    let reading := readReleases d extract response
    { sent with
      outcome? := some reading.outcome
      journal := sent.journal.writeAll reading.entries }

end Reading

def startEntry (d : Definition) (options : SearchOptions) : Entry :=
  { level := .info
    source := source
    message := "Searching " ++ d.displayName ++ " for '" ++ options.query ++ "'" }

def foundEntry (d : Definition) (count : Nat) : Entry :=
  { level := .info
    source := source
    message := d.displayName ++ " returned " ++ intText count ++ " releases"
    details := [("releases", .int count)] }

/-- Searches an indexer, within the correlation that is there. -/
def searchWithin [Pattern.Library] (s : Surroundings) (d : Definition) (options : SearchOptions)
    (extract : Quality.Extractor) (limiter : Limiter Float) (now : Float) (journal : Journal) :
    Outcome × Journal :=
  let done := pipeline s d options extract limiter now (journal.write (startEntry d options))
  match done.outcome? with
  | none => (⟨none, done.visit, done.exchange⟩, done.journal)
  | some (.ok releases) =>
    (⟨some (.ok releases), done.visit, done.exchange⟩,
      done.journal.write (foundEntry d releases.length))
  | some (.error trouble) =>
    let (failure, entry) := settle d trouble
    (⟨some (.error failure), done.visit, done.exchange⟩, done.journal.write entry)

/-- Searches an indexer.  What is written about it carries its id and the name of the indexer. -/
def search [Pattern.Library] (s : Surroundings) (d : Definition) (options : SearchOptions)
    (extract : Quality.Extractor) (limiter : Limiter Float) (now : Float) (searchId : String)
    (journal : Journal) : Outcome × Journal :=
  journal.within { searchId := some searchId, indexer := some d.id }
    (searchWithin s d options extract limiter now)

end ReleaseSearch.Search
