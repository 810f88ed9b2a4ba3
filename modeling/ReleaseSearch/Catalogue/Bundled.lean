import ReleaseSearch.Definition.Basic
import ReleaseSearch.Settings
import ReleaseSearch.Request.Template

/-!
# Definitions that come with the library
-/

namespace ReleaseSearch.Catalogue

open Template

/-- The address that relative links of the first site start from. -/
def tableSite : String := "https://1337x.to"

def tableLinks : String := "td.name a[href^=\"/torrent/\"]"

def tableTracker (settings : Settings) : Definition where
  id := "1337x"
  name := "1337x"
  baseUrls := [tableSite ++ "/", "https://1337x.st/"]
  searchPaths :=
    [{ template := "/category-search/" ++ keywords ++ "/Movies/1/"
       categories := [2000, 2040, 2045] },
      { template := "/category-search/" ++ keywords ++ "/TV/1/"
        categories := [5000, 5040, 5045] },
      { template := "/search/" ++ keywords ++ "/1/" }]
  rowSelector := some { selector := "table.table-list tbody tr" }
  fieldSelectors :=
    [("title", { selector := tableLinks }),
      ("details", { selector := tableLinks, attributeName := some "href"
                    filters := [.prepend tableSite] }),
      ("download", { selector := tableLinks, attributeName := some "href"
                     filters := [.prepend tableSite] }),
      -- The cell of the size holds the number of seeders as well.
      ("size", { selector := "td.size"
                 filters := [.substitute "^([\\d.,]+\\s*[KMGT]i?B).*$" "$1"] }),
      ("seeders", { selector := "td.seeds" }),
      ("leechers", { selector := "td.leeches" }),
      ("date", { selector := "td.coll-date" }),
      ("uploader", { selector := "td.coll-5 a" })]
  headers := [("Accept", "text/html"), ("User-Agent", settings.userAgent)]
  requestDelay := some 2
  followRedirect := true

def arrayInterface (settings : Settings) : Definition where
  id := "apibay"
  name := "The Pirate Bay (API)"
  baseUrls := ["https://apibay.org/"]
  searchPaths := [{ template := "/q.php" }]
  rowSelector := some { selector := "$" }
  fieldSelectors :=
    [("title", { selector := "name" }),
      ("download", { selector := "info_hash", filters := [.prepend "magnet:?xt=urn:btih:"] }),
      ("details", { selector := "id"
                    filters := [.prepend "https://thepiratebay.org/description.php?id="] }),
      ("size", { selector := "size" }),
      ("seeders", { selector := "seeders" }),
      ("leechers", { selector := "leechers" }),
      ("date", { selector := "added" }),
      ("category", { selector := "category" }),
      ("imdbid", { selector := "imdb" }),
      ("uploader", { selector := "username" })]
  headers := [("Accept", "application/json"), ("User-Agent", settings.userAgent)]
  inputs := [("q", .text keywords), ("cat", .text categories)]
  requestDelay := some 1

/-- The definitions that come with the library, sorted by name. -/
def bundled (settings : Settings) : List Definition :=
  [tableTracker settings, arrayInterface settings]

/-- The definition of a name among those that come with the library. -/
def bundled? (settings : Settings) (id : String) : Option Definition :=
  (bundled settings).find? (·.id == id)

end ReleaseSearch.Catalogue
