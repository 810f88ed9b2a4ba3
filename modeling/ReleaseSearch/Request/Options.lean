import ReleaseSearch.Schema.Check

/-!
# What is searched for

`SearchOptions` says what a caller is looking for; `UserConfig` holds what a user has set for one
indexer.
-/

namespace ReleaseSearch

open Schema

/-- What a caller is looking for. -/
structure SearchOptions where
  query : String := ""
  /-- The categories that the search is restricted to. -/
  categories : List Int := []
  season : Option Nat := none
  episode : Option Nat := none
  imdbId : Option String := none
  tmdbId : Option Int := none
  deriving DecidableEq, Repr

namespace SearchOptions

def read (es : Entries) : Check SearchOptions :=
  SearchOptions.mk <$> take es "query" "" text
    <*> take es "categories" [] (tuple int)
    <*> take es "season" none (nullable natural)
    <*> take es "episode" none (nullable natural)
    <*> take es "imdb_id" none (nullable text)
    <*> take es "tmdb_id" none (nullable (intFrom 1))

def toData (o : SearchOptions) : Data :=
  .object [("query", .text o.query), ("categories", .list (o.categories.map .int)),
    ("season", .optional (fun (n : Nat) => .int n) o.season),
    ("episode", .optional (fun (n : Nat) => .int n) o.episode),
    ("imdb_id", .optional .text o.imdbId), ("tmdb_id", .optional .int o.tmdbId)]

end SearchOptions

/-- What a user has set for one indexer. -/
structure UserConfig where
  /-- Cookies as pairs of a name and a value. -/
  cookies : List String := []
  deriving DecidableEq, Repr

namespace UserConfig

def read (es : Entries) : Check UserConfig := UserConfig.mk <$> take es "cookies" [] (tuple text)

/-- The value of one header for all cookies that are not empty. -/
def cookieHeader? (c : UserConfig) : Option String :=
  match c.cookies.filter (· != "") with
  | [] => none
  | cookies => some ("; ".intercalate cookies)

end UserConfig

end ReleaseSearch
