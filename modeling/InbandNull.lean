import InbandNull.SqlType
import InbandNull.Encoding
import InbandNull.Violation
import InbandNull.Descriptor
import InbandNull.Sentinel.Binary
import InbandNull.Sentinel.Float
import InbandNull.Sentinel.Integer
import InbandNull.Layout.Integer
import InbandNull.Layout.Logical
import InbandNull.Layout.Stored
import InbandNull.Layout.Floating
import InbandNull.Layout.Value
import InbandNull.Decimal.Shortest
import InbandNull.Text.Printable
import InbandNull.Text.Quoted
import InbandNull.Json.Fault
import InbandNull.Json.Reader
import InbandNull.Json.Text
import InbandNull.Json.Number
import InbandNull.Json.Skip
import InbandNull.Json.Scalar
import InbandNull.Json.Record
import InbandNull.Error
import InbandNull.ColumnType.Basic
import InbandNull.ColumnType.Document
import InbandNull.Arrow.DataType
import InbandNull.Arrow.Column
import InbandNull.Bytes.Order
import InbandNull.Bytes.Rows
import InbandNull.Buffer.Outcome
import InbandNull.Buffer.Basic
import InbandNull.Buffer.Scan
import InbandNull.Buffer.Decode
import InbandNull.Buffer.Fill
import InbandNull.Logging.OpenFault
import InbandNull.Logging.Level
import InbandNull.Logging.Event
import InbandNull.Logging.Settings
import InbandNull.Logging.Directory
import InbandNull.Logging.Path
import InbandNull.Logging.Facility
import InbandNull.Handler
import InbandNull.Session
import InbandNull.Proofs.Bytes.Words
import InbandNull.Proofs.Bytes.Native
import InbandNull.Proofs.Bytes.Rows
import InbandNull.Proofs.Bytes.Overwrite
import InbandNull.Proofs.Sentinel.Integer
import InbandNull.Proofs.Layout.Resolution
import InbandNull.Proofs.Layout.WellFormed
import InbandNull.Proofs.Layout.Range
import InbandNull.Proofs.Layout.Integer
import InbandNull.Proofs.ColumnType.Validation
import InbandNull.Proofs.ColumnType.Size
import InbandNull.Proofs.ColumnType.Constructors
import InbandNull.Proofs.ColumnType.Family
import InbandNull.Proofs.Arrow.Table
import InbandNull.Proofs.Arrow.Column
import InbandNull.Proofs.Arrow.Agreement
import InbandNull.Proofs.Sentinel.Widening
import InbandNull.Proofs.Buffer.Scan
import InbandNull.Proofs.Buffer.Decode
import InbandNull.Proofs.Buffer.Fill
import InbandNull.Proofs.Buffer.Trap
import InbandNull.Proofs.Buffer.Failure
import InbandNull.Proofs.Buffer.Host
import InbandNull.Proofs.Buffer.Place
import InbandNull.Proofs.Buffer.Readers
import InbandNull.Proofs.Buffer.Masks
import InbandNull.Proofs.Buffer.Cells
import InbandNull.Proofs.Buffer.Recognition
import InbandNull.Proofs.Buffer.RoundTrip
import InbandNull.Proofs.Buffer.NullColumn
import InbandNull.Proofs.Buffer.Concatenation
import InbandNull.Proofs.Buffer.Relevance
import InbandNull.Proofs.Buffer.LogicalNull
import InbandNull.Proofs.Json.Grammar
import InbandNull.Proofs.Json.Blank
import InbandNull.Proofs.Json.Text
import InbandNull.Proofs.Json.Number
import InbandNull.Proofs.Json.Skip
import InbandNull.Proofs.Json.Scalar
import InbandNull.Proofs.Json.Record
import InbandNull.Proofs.Json.Compact
import InbandNull.Proofs.ColumnType.Document
import InbandNull.Proofs.Logging.Settings
import InbandNull.Proofs.Logging.Process
import InbandNull.Proofs.Logging.Call
import InbandNull.Proofs.Logging.Installation
import InbandNull.Proofs.Logging.Lines
import InbandNull.Proofs.Session.Run
