import Catalogue.Book
import Catalogue.Condition.Basic
import Catalogue.Condition.Builder
import Catalogue.Condition.Document
import Catalogue.Condition.Meaning
import Catalogue.Condition.Rejection
import Catalogue.Condition.Template
import Catalogue.Database.Address
import Catalogue.Database.Dialect
import Catalogue.Database.Disk
import Catalogue.Database.Failure
import Catalogue.Database.Host
import Catalogue.Database.Host.Letter
import Catalogue.Database.Host.Name
import Catalogue.Database.Host.Number
import Catalogue.Database.Host.Punycode
import Catalogue.Database.Pool
import Catalogue.Database.Retry
import Catalogue.Database.Server
import Catalogue.Database.Sqlite
import Catalogue.Database.Url
import Catalogue.Decimal.Binary
import Catalogue.Decimal.Digits
import Catalogue.Decimal.Extended
import Catalogue.Decimal.Layout
import Catalogue.Decimal.Numeral
import Catalogue.Http.Layers
import Catalogue.Http.MediaType
import Catalogue.Http.Message
import Catalogue.Http.Routes
import Catalogue.Json.Basic
import Catalogue.Json.Cursor
import Catalogue.Json.Decoder
import Catalogue.Json.Fault
import Catalogue.Json.Figure
import Catalogue.Json.Printer
import Catalogue.Json.Reader
import Catalogue.Json.Verbatim
import Catalogue.Search
import Catalogue.Service.Books
import Catalogue.Service.Fault
import Catalogue.Service.Paging
import Catalogue.Service.Reply
import Catalogue.Settings.Basic
import Catalogue.Settings.Load
import Catalogue.Settings.Members
import Catalogue.Settings.Section
import Catalogue.Settings.Tree
import Catalogue.Settings.Variable
import Catalogue.Store.Comparison
import Catalogue.Store.Fault
import Catalogue.Store.Formula
import Catalogue.Store.Pattern
import Catalogue.Store.Plan.Choice
import Catalogue.Store.Plan.Cost
import Catalogue.Store.Plan.Path
import Catalogue.Store.Plan.Visit
import Catalogue.Store.Process
import Catalogue.Store.Request
import Catalogue.Store.Statement
import Catalogue.Store.Table
import Catalogue.Text.Blank
import Catalogue.Text.Direction
import Catalogue.Text.Joining
import Catalogue.Text.Mark
import Catalogue.Text.Parts
import Catalogue.Text.Percent
import Catalogue.Text.Quoted
import Catalogue.Text.Symbol
import Catalogue.Text.Unprintable
import Catalogue.Toml.Document
import Catalogue.Toml.Number
import Catalogue.Toml.Scanner
import Catalogue.Toml.Table
import Catalogue.Toml.Value
import Catalogue.Window
import Catalogue.Word
import Catalogue.Proofs.Text.Trim
import Catalogue.Proofs.Text.Utf8
import Catalogue.Proofs.Decimal.Numeral
import Catalogue.Proofs.Sql.Token
import Catalogue.Proofs.Sql.Expression
import Catalogue.Proofs.Sql.Query
import Catalogue.Proofs.Condition.Slots
import Catalogue.Proofs.Condition.Tokens
import Catalogue.Proofs.Condition.Precedence
import Catalogue.Proofs.Condition.Evaluation
import Catalogue.Proofs.Condition.Shape
import Catalogue.Proofs.Condition.Growth
import Catalogue.Proofs.Condition.Placeholders
import Catalogue.Proofs.Condition.Filter
import Catalogue.Proofs.Condition.Grammar
import Catalogue.Proofs.Condition.Sound
import Catalogue.Proofs.Condition.Stability
import Catalogue.Proofs.Condition.Outline
import Catalogue.Proofs.Condition.RoundTrip
import Catalogue.Proofs.Condition.Misshapen
import Catalogue.Proofs.Condition.Defects
import Catalogue.Proofs.Condition.FirstDefect
import Catalogue.Proofs.Condition.Predicates
import Catalogue.Proofs.Json.Finite
import Catalogue.Proofs.Json.Made
import Catalogue.Proofs.Json.Scalars
import Catalogue.Proofs.Json.Written
import Catalogue.Proofs.Json.Alike
import Catalogue.Proofs.Json.Ends
import Catalogue.Proofs.Json.Records
import Catalogue.Proofs.Search.RoundTrip
import Catalogue.Proofs.Search.Streams
import Catalogue.Proofs.Database.Masking
import Catalogue.Proofs.Database.Slices
import Catalogue.Proofs.Database.Retrying
import Catalogue.Proofs.Store.Phrases
import Catalogue.Proofs.Store.Wording
import Catalogue.Proofs.Store.Query
import Catalogue.Proofs.Store.Answers
import Catalogue.Proofs.Store.Run
import Catalogue.Proofs.Store.Shelf
import Catalogue.Proofs.Store.Refinement
import Catalogue.Proofs.Store.Interleaving
import Catalogue.Proofs.Store.Required
import Catalogue.Proofs.Store.Among
import Catalogue.Proofs.Store.Reported
import Catalogue.Proofs.Store.Containment
import Catalogue.Proofs.Service.Counts
import Catalogue.Proofs.Service.Listing
import Catalogue.Proofs.Service.Coherence
import Catalogue.Proofs.Service.Pages
import Catalogue.Proofs.Service.Payloads
import Catalogue.Proofs.Http.Searches
import Catalogue.Proofs.Http.Discretion
import Catalogue.Proofs.Http.Reports
import Catalogue.Proofs.Http.BodyLimits
import Catalogue.Proofs.Settings.Layers
import Catalogue.Proofs.Settings.Sources
import Catalogue.Proofs.Settings.Sections
import Catalogue.Proofs.Settings.Precedence
