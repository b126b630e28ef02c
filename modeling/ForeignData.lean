import ForeignData.Session
import ForeignData.Main
import ForeignData.Plan.Encoding
import ForeignData.Proofs.Text.Digits
import ForeignData.Proofs.Text.Hex
import ForeignData.Proofs.Numeric.Decimal
import ForeignData.Proofs.Calendar.Text
import ForeignData.Proofs.Host.ScalarText
import ForeignData.Proofs.Host.Token
import ForeignData.Proofs.Scan.Replay
import ForeignData.Proofs.Stored.Binding
import ForeignData.Proofs.Stored.RowShape
import ForeignData.Proofs.Shipping.Memory
import ForeignData.Proofs.Plan.Sorting
import ForeignData.Proofs.Plan.Recheck
import ForeignData.Proofs.Shipping.Invalidation
import ForeignData.Proofs.Sqlite.Reading
import ForeignData.Proofs.Plan.ResultColumns
import ForeignData.Proofs.Json.Reader
import ForeignData.Proofs.Plan.Encoding
import ForeignData.Proofs.Sqlite.Phrase
import ForeignData.Proofs.Sqlite.Changes
import ForeignData.Proofs.Change.Statement
import ForeignData.Proofs.Change.Agreement
import ForeignData.Proofs.Sqlite.TextTest
import ForeignData.Proofs.Sqlite.TextTruth
import ForeignData.Proofs.Import.Query
import ForeignData.Proofs.Import.Statement
import ForeignData.Proofs.Import.Catalog
import ForeignData.Proofs.Import.Tables
import ForeignData.Proofs.Change.Program
import ForeignData.Proofs.Change.Rows
import ForeignData.Proofs.Engine.Record
import ForeignData.Proofs.Scan.Lifecycle
import ForeignData.Proofs.Change.Lifecycle
import ForeignData.Proofs.Sql.Names
import ForeignData.Proofs.Option.Trust
import ForeignData.Proofs.Calendar.Days
import ForeignData.Proofs.Host.TimestampText
import ForeignData.Proofs.Stored.Order
import ForeignData.Proofs.Stored.Policy
import ForeignData.Proofs.Stored.Whole
import ForeignData.Proofs.Host.ByteaText
import ForeignData.Proofs.Numeric.Numeral
import ForeignData.Proofs.Stored.StorageClass
import ForeignData.Proofs.Stored.ParameterOrder
import ForeignData.Proofs.Option.Check
import ForeignData.Proofs.Import.AllOrNothing
