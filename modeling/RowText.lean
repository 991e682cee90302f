import RowText.Segment.Preview
import RowText.RowString.Order
import RowText.RowString.Chars
import RowText.RowString.Trim
import RowText.RowString.Join
import RowText.RowString.Split
import RowText.RowString.SortKey
import RowText.RowString.Case
import RowText.RowString.Inspect
import RowText.Number.Integer
import RowText.Number.Binary
import RowText.Decimal.Parse
import RowText.Json.Document
import RowText.RowString.Numeric
import RowText.Layout
import RowText.Event
import RowText.Session.Run
import RowText.Proofs.Accesses
import RowText.Proofs.Content
import RowText.Proofs.Order
import RowText.Proofs.Chars
import RowText.Proofs.Slices
import RowText.Proofs.LayoutIndependence
import RowText.Proofs.KeyOrder
import RowText.Proofs.CodePoints
import RowText.Proofs.CharSearch
import RowText.Proofs.Search
import RowText.Proofs.Decimal.Digits
import RowText.Proofs.Decimal.Numeral
import RowText.Proofs.Decimal.Lexical
import RowText.Proofs.Decimal.ExactPath
import RowText.Proofs.Decimal.CompactPath
import RowText.Proofs.Decimal.FastPath
import RowText.Proofs.Decimal.Value
import RowText.Proofs.Decimal.Rendering
import RowText.Proofs.Decimal.Unchecked
import RowText.Proofs.Decimal.Precision
import RowText.Proofs.CodePointOrder
import RowText.Proofs.Cuts
import RowText.Proofs.WellFormed
import RowText.Proofs.Guarantee
import RowText.Proofs.Calls
import RowText.Proofs.Regrouping
import RowText.Proofs.CharCount
import RowText.Proofs.Reversal
import RowText.Proofs.Boundary
import RowText.Proofs.CaseMap
import RowText.Proofs.WholeCharacters
import RowText.Proofs.CaseStability
import RowText.Proofs.Writes
import RowText.Proofs.Integer
import RowText.Proofs.Tokens
import RowText.Proofs.Replacement
import RowText.Proofs.Session.Actions
import RowText.Proofs.Session.Commands
import RowText.Proofs.Session.Effects
import RowText.Proofs.Session.Runs
import RowText.Proofs.Session.Slots
import RowText.Proofs.Session.Decoding
import RowText.Proofs.Windows
import RowText.Proofs.Views
import RowText.Proofs.Lookup
import RowText.Proofs.Trims
import RowText.Proofs.Json.Text
import RowText.Proofs.Json.Value
import RowText.Proofs.Json.Document
import RowText.Proofs.Parts
import RowText.Proofs.Layout
