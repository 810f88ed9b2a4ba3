import ReleaseSearch.Catalogue.Basic
import ReleaseSearch.Catalogue.Bundled
import ReleaseSearch.Catalogue.Directory
import ReleaseSearch.Data.Basic
import ReleaseSearch.Data.Json
import ReleaseSearch.Data.Wording
import ReleaseSearch.Decimal.Double
import ReleaseSearch.Decimal.Layout
import ReleaseSearch.Decimal.Number
import ReleaseSearch.Decimal.Read
import ReleaseSearch.Decimal.Scale
import ReleaseSearch.Decimal.Shortest
import ReleaseSearch.Definition.Basic
import ReleaseSearch.Definition.Delay
import ReleaseSearch.Definition.Findings
import ReleaseSearch.Definition.Written
import ReleaseSearch.Failure
import ReleaseSearch.Failure.Described
import ReleaseSearch.Filter.Basic
import ReleaseSearch.Filter.Spec
import ReleaseSearch.Html.Encoding
import ReleaseSearch.Html.Entity
import ReleaseSearch.Html.Reference
import ReleaseSearch.Html.Token
import ReleaseSearch.Html.Tree
import ReleaseSearch.Http.Address
import ReleaseSearch.Http.Cookie
import ReleaseSearch.Http.Exchange
import ReleaseSearch.Http.Host
import ReleaseSearch.Http.Message
import ReleaseSearch.Http.Punycode
import ReleaseSearch.Http.Reference
import ReleaseSearch.Limiter.Bucket
import ReleaseSearch.Limiter.Registry
import ReleaseSearch.Log.Basic
import ReleaseSearch.Log.Correlation
import ReleaseSearch.Log.Journal
import ReleaseSearch.Log.Logger
import ReleaseSearch.Log.Message
import ReleaseSearch.Log.Record
import ReleaseSearch.Pattern.Basic
import ReleaseSearch.Pattern.Match
import ReleaseSearch.Pattern.Reader
import ReleaseSearch.Pattern.Replace
import ReleaseSearch.Pattern.Search
import ReleaseSearch.Proofs.Run
import ReleaseSearch.Quality.Basic
import ReleaseSearch.Quality.Mark
import ReleaseSearch.Quality.Title
import ReleaseSearch.Ranking.Profile
import ReleaseSearch.Ranking.Score
import ReleaseSearch.Release.Basic
import ReleaseSearch.Request.Basic
import ReleaseSearch.Request.Options
import ReleaseSearch.Request.Percent
import ReleaseSearch.Request.Template
import ReleaseSearch.Results.Path
import ReleaseSearch.Results.Read
import ReleaseSearch.Results.Row
import ReleaseSearch.Results.Value
import ReleaseSearch.Retry
import ReleaseSearch.Schema.Check
import ReleaseSearch.Schema.Problem
import ReleaseSearch.Search.Basic
import ReleaseSearch.Search.Execute
import ReleaseSearch.Selector.Basic
import ReleaseSearch.Selector.Match
import ReleaseSearch.Selector.Place
import ReleaseSearch.Selector.Reader
import ReleaseSearch.Settings
import ReleaseSearch.Text.Blank
import ReleaseSearch.Text.Case
import ReleaseSearch.Text.Charset
import ReleaseSearch.Text.Digit
import ReleaseSearch.Text.Line
import ReleaseSearch.Text.Printable
import ReleaseSearch.Text.Quoted
import ReleaseSearch.Text.Substring
import ReleaseSearch.Text.Utf8
import ReleaseSearch.Text.Word
import ReleaseSearch.Time.Calendar
import ReleaseSearch.Time.Read
import ReleaseSearch.Yaml.Cursor
import ReleaseSearch.Yaml.Node
import ReleaseSearch.Yaml.Read
import ReleaseSearch.Yaml.Scalar
import ReleaseSearch.Yaml.Text
import ReleaseSearch.Yaml.Token
import ReleaseSearch.Proofs.Results.Row
import ReleaseSearch.Proofs.Results.Release
import ReleaseSearch.Proofs.Results.Data
import ReleaseSearch.Proofs.Results.Guard
import ReleaseSearch.Proofs.Results.Page
import ReleaseSearch.Proofs.Log.Correlation
import ReleaseSearch.Proofs.Log.Journal
import ReleaseSearch.Proofs.Results.Trouble
import ReleaseSearch.Proofs.Search.Execute
import ReleaseSearch.Proofs.Search.Basic
import ReleaseSearch.Proofs.Definition.Read
import ReleaseSearch.Proofs.Decimal.Scale
import ReleaseSearch.Proofs.Limiter.Bucket
import ReleaseSearch.Proofs.Limiter.Registry
import ReleaseSearch.Proofs.Limiter.Call
import ReleaseSearch.Proofs.Limiter.Spacing
import ReleaseSearch.Proofs.Except
import ReleaseSearch.Proofs.Decimal.Double
import ReleaseSearch.Proofs.Schema.Check
import ReleaseSearch.Proofs.Definition.Shape
import ReleaseSearch.Proofs.Definition.Written
import ReleaseSearch.Proofs.Definition.Load
import ReleaseSearch.Proofs.Definition.Drive
import ReleaseSearch.Proofs.Definition.Trap
import ReleaseSearch.Proofs.Definition.Ends
import ReleaseSearch.Proofs.Filter.Build
import ReleaseSearch.Proofs.Filter.Chain
import ReleaseSearch.Proofs.Limiter.Allowance
import ReleaseSearch.Proofs.Ranking.Order
import ReleaseSearch.Proofs.Text.Utf8
import ReleaseSearch.Proofs.Text.Pieces
import ReleaseSearch.Proofs.Request.Percent
import ReleaseSearch.Proofs.Http.Exchange
import ReleaseSearch.Proofs.Http.Form
import ReleaseSearch.Proofs.Http.Query
import ReleaseSearch.Proofs.Limiter.Token
import ReleaseSearch.Proofs.Search.Effects
import ReleaseSearch.Proofs.Search.Query
import ReleaseSearch.Proofs.Json.Word
import ReleaseSearch.Proofs.Json.Value
import ReleaseSearch.Proofs.Json.Document
import ReleaseSearch.Proofs.Text.Blank
import ReleaseSearch.Proofs.Results.Form
import ReleaseSearch.Proofs.Catalogue.Basic
import ReleaseSearch.Proofs.Catalogue.History
import ReleaseSearch.Proofs.Log.Script
import ReleaseSearch.Proofs.Retry
import ReleaseSearch.Proofs.Text.Substring
import ReleaseSearch.Proofs.Text.Case
import ReleaseSearch.Proofs.Request.Template
import ReleaseSearch.Proofs.Request.Encoded
import ReleaseSearch.Proofs.Data.Wording
import ReleaseSearch.Proofs.Request.Address
import ReleaseSearch.Proofs.Text.Word
import ReleaseSearch.Proofs.Quality.Mark
import ReleaseSearch.Proofs.Quality.Title
import ReleaseSearch.Proofs.Results.Parts
import ReleaseSearch.Proofs.Results.Fields
import ReleaseSearch.Proofs.Time.Calendar
import ReleaseSearch.Proofs.Decimal.Digits
import ReleaseSearch.Proofs.Time.Stamp
import ReleaseSearch.Proofs.Results.Date
import ReleaseSearch.Proofs.Decimal.Whole
import ReleaseSearch.Proofs.Decimal.Shortest
import ReleaseSearch.Proofs.Json.Numeral
import ReleaseSearch.Proofs.Results.Count
import ReleaseSearch.Proofs.Results.Path
import ReleaseSearch.Proofs.Limiter.Wait
import ReleaseSearch.Proofs.Limiter.Ungranted
import ReleaseSearch.Proofs.Limiter.Delay
import ReleaseSearch.Proofs.Ranking.Score
import ReleaseSearch.Proofs.Ranking.Seeders
import ReleaseSearch.Proofs.Decimal.Nearest
import ReleaseSearch.Proofs.Decimal.Rounding
import ReleaseSearch.Proofs.Decimal.Worth
import ReleaseSearch.Proofs.Decimal.Arithmetic
import ReleaseSearch.Proofs.Decimal.Conversion
import ReleaseSearch.Proofs.Decimal.Order
import ReleaseSearch.Proofs.Ranking.Doubles
import ReleaseSearch.Proofs.Limiter.Endless
import ReleaseSearch.Proofs.Ranking.Looser
import ReleaseSearch.Proofs.Ranking.Upgrade
import ReleaseSearch.Proofs.Filter.Problems
import ReleaseSearch.Proofs.Definition.Filters
import ReleaseSearch.Proofs.Definition.Shorthand
import ReleaseSearch.Proofs.Definition.Spelled
import ReleaseSearch.Proofs.Definition.Longhand
import ReleaseSearch.Proofs.Definition.Forms
import ReleaseSearch.Proofs.Catalogue.Listing
import ReleaseSearch.Proofs.Retry.Answer
import ReleaseSearch.Proofs.Results.Integer
import ReleaseSearch.Proofs.Results.Size
import ReleaseSearch.Proofs.Definition.Headers
