import EmbeddedSql.Plan.Source
import EmbeddedSql.Plan.Expression
import EmbeddedSql.Function.Aggregate
import EmbeddedSql.Database.Basic
import EmbeddedSql.Value.Order
import EmbeddedSql.Value.Arithmetic
import EmbeddedSql.Value.Pattern
import EmbeddedSql.Session.Perform
import EmbeddedSql.Storage.Backend
import EmbeddedSql.Sql.Parser.Statement
import EmbeddedSql.Sql.Statement
import EmbeddedSql.Proofs.Connection.Lifecycle
import EmbeddedSql.Proofs.Query.Lifecycle
import EmbeddedSql.Proofs.Session.Link
import EmbeddedSql.Proofs.Session.Lifecycle
import EmbeddedSql.Proofs.Connection.Custody
import EmbeddedSql.Proofs.Query.Custody
import EmbeddedSql.Proofs.Session.Books
import EmbeddedSql.Proofs.Session.Custody.Command
import EmbeddedSql.Proofs.Session.Custody.Connection
import EmbeddedSql.Proofs.Session.Custody.Reader
import EmbeddedSql.Proofs.Session.Custody.Run
import EmbeddedSql.Proofs.Engine.Recording
import EmbeddedSql.Proofs.Session.Release
import EmbeddedSql.Proofs.Storage.Sketch
import EmbeddedSql.Proofs.Storage.Custody
import EmbeddedSql.Proofs.Connection.Run
import EmbeddedSql.Proofs.Connection.Transactions
import EmbeddedSql.Proofs.Query.Transactions
import EmbeddedSql.Proofs.Scratch.Pool
import EmbeddedSql.Proofs.Session.Pools
import EmbeddedSql.Proofs.Session.Holders
import EmbeddedSql.Proofs.Session.Pending
import EmbeddedSql.Proofs.Engine.Rewinding
import EmbeddedSql.Proofs.Connection.Rewinding
import EmbeddedSql.Proofs.Query.Rewinding
import EmbeddedSql.Proofs.Storage.Rewinding
import EmbeddedSql.Proofs.Session.Guards
import EmbeddedSql.Proofs.Session.Rewinding
import EmbeddedSql.Proofs.Storage.Standing
import EmbeddedSql.Proofs.Storage.Transactions
import EmbeddedSql.Proofs.Engine.Transactions
import EmbeddedSql.Proofs.Query.Atomicity
import EmbeddedSql.Proofs.Query.Leniency
import EmbeddedSql.Proofs.Query.Reporting
import EmbeddedSql.Proofs.Text.Utf8
import EmbeddedSql.Proofs.Text.Utf16
import EmbeddedSql.Proofs.Number.Binary64
import EmbeddedSql.Proofs.Engine.Binding
import EmbeddedSql.Proofs.Storage.Echoing
import EmbeddedSql.Proofs.Query.Normal
import EmbeddedSql.Proofs.Query.Isolation
import EmbeddedSql.Proofs.Session.Division
import EmbeddedSql.Proofs.Session.Encoding
import EmbeddedSql.Proofs.Engine.Isolation
import EmbeddedSql.Proofs.Session.Accessors
import EmbeddedSql.Proofs.Session.Pairing
import EmbeddedSql.Proofs.Session.Isolation
import EmbeddedSql.Proofs.Session.Interleaving
import EmbeddedSql.Proofs.Connection.Columns
import EmbeddedSql.Proofs.Session.Readers
import EmbeddedSql.Proofs.Session.Reading
import EmbeddedSql.Proofs.Session.Columns
import EmbeddedSql.Proofs.Text.Transcoding
import EmbeddedSql.Proofs.Number.Numeral
import EmbeddedSql.Proofs.Connection.Cell
import EmbeddedSql.Proofs.Session.Observing
import EmbeddedSql.Proofs.Connection.Binding
import EmbeddedSql.Proofs.Query.Binding
import EmbeddedSql.Proofs.Storage.Binding
import EmbeddedSql.Proofs.Session.Slots
import EmbeddedSql.Proofs.Connection.Repeating
import EmbeddedSql.Proofs.Session.Repeating
import EmbeddedSql.Proofs.Storage.Compiled
import EmbeddedSql.Proofs.Storage.Repeating
import EmbeddedSql.Proofs.Session.Naming
import EmbeddedSql.Proofs.Session.Echoing
import EmbeddedSql.Proofs.Session.WideBinding
import EmbeddedSql.Proofs.Session.Fetching
import EmbeddedSql.Proofs.Session.Positions
import EmbeddedSql.Proofs.Session.Decoding
import EmbeddedSql.Proofs.Engine.Counting
import EmbeddedSql.Proofs.Storage.Counting
import EmbeddedSql.Proofs.Session.Counting
import EmbeddedSql.Proofs.Text.Base64
import EmbeddedSql.Proofs.Session.Faithful
import EmbeddedSql.Proofs.Json.Parsing
import EmbeddedSql.Proofs.Json.Records
import EmbeddedSql.Proofs.Session.Structured
import EmbeddedSql.Proofs.Connection.Ways
import EmbeddedSql.Proofs.Session.Ways
import EmbeddedSql.Proofs.Connection.Opening
import EmbeddedSql.Proofs.Session.Failures
import EmbeddedSql.Proofs.Connection.Lending
import EmbeddedSql.Proofs.Session.Lending
import EmbeddedSql.Proofs.Session.Copying
import EmbeddedSql.Proofs.Session.FirstStatement
import EmbeddedSql.Proofs.Session.LazyOpening
