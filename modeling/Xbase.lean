import Xbase.Cursor.Description
import Xbase.Logging
import Xbase.Proofs.Charset.Ascii
import Xbase.Proofs.Charset.CodePageNumber
import Xbase.Proofs.Charset.Encoding
import Xbase.Proofs.Charset.FieldText
import Xbase.Proofs.Charset.SingleByte
import Xbase.Proofs.Charset.Utf8
import Xbase.Proofs.Cursor.Boundary
import Xbase.Proofs.Cursor.Column
import Xbase.Proofs.Cursor.Decimal
import Xbase.Proofs.Cursor.Filter
import Xbase.Proofs.Cursor.Integer
import Xbase.Proofs.Cursor.Misfit
import Xbase.Proofs.Cursor.Noninterference
import Xbase.Proofs.Cursor.Nulls
import Xbase.Proofs.Cursor.Text
import Xbase.Proofs.Cursor.Truncation
import Xbase.Proofs.Cursor.Validation
import Xbase.Proofs.Cursor.Walk
import Xbase.Proofs.Date
import Xbase.Proofs.Date.Stamp
import Xbase.Proofs.Number.Integer
import Xbase.Proofs.Number.Notation
import Xbase.Proofs.Query.Blanks
import Xbase.Proofs.Query.NumberLiteral
import Xbase.Proofs.Query.Numeral
import Xbase.Proofs.Query.Operators
import Xbase.Proofs.Query.OrderBy
import Xbase.Proofs.Query.Printing
import Xbase.Proofs.Query.Progress
import Xbase.Proofs.Query.Quoting
import Xbase.Proofs.Query.Refusal
import Xbase.Proofs.Query.Reuse
import Xbase.Proofs.Query.Sentence
import Xbase.Proofs.Query.Spelling
import Xbase.Proofs.Query.SubQuery
import Xbase.Proofs.Query.Word
import Xbase.Proofs.Session.Closing
import Xbase.Proofs.Session.Isolation
import Xbase.Proofs.Table.Descriptor
import Xbase.Proofs.Table.DescriptorArea
import Xbase.Proofs.Table.Header
import Xbase.Proofs.Table.Layout
import Xbase.Proofs.Table.MemoryCopy
import Xbase.Proofs.Table.Padding
import Xbase.Proofs.Table.Run
import Xbase.Proofs.Table.Spans
import Xbase.Proofs.Text.Order
import Xbase.Session.Action
import Xbase.Table.Layout
