import DocQuery.Argument.Bound
import DocQuery.Argument.Comparison
import DocQuery.Argument.Reserved
import DocQuery.Argument.Sort
import DocQuery.Calendar.Date
import DocQuery.Calendar.Extended
import DocQuery.Calendar.Rfc3339
import DocQuery.Calendar.Stamp
import DocQuery.Compile
import DocQuery.Dict
import DocQuery.Error
import DocQuery.Filter.Fragment
import DocQuery.Filter.Merge
import DocQuery.Json.Basic
import DocQuery.Json.Parser
import DocQuery.Json.Value
import DocQuery.Literal.Caster
import DocQuery.Literal.Pattern
import DocQuery.Literal.Rule
import DocQuery.Number.Binary64
import DocQuery.Number.Decimal
import DocQuery.Number.Decimal128
import DocQuery.Order.Stable
import DocQuery.Projection
import DocQuery.Proofs.Argument.Bound
import DocQuery.Proofs.Argument.Precedence
import DocQuery.Proofs.Argument.Sign
import DocQuery.Proofs.Argument.Sort
import DocQuery.Proofs.Calendar.Day
import DocQuery.Proofs.Calendar.Extended
import DocQuery.Proofs.Calendar.Fraction
import DocQuery.Proofs.Calendar.Grammar
import DocQuery.Proofs.Calendar.Instant
import DocQuery.Proofs.Calendar.Order
import DocQuery.Proofs.Calendar.Rendering
import DocQuery.Proofs.Compile.Arguments
import DocQuery.Proofs.Compile.Encoding
import DocQuery.Proofs.Compile.Exchange
import DocQuery.Proofs.Compile.Failure
import DocQuery.Proofs.Compile.Form
import DocQuery.Proofs.Compile.Meaning
import DocQuery.Proofs.Compile.Omission
import DocQuery.Proofs.Compile.Overwriting
import DocQuery.Proofs.Compile.Populated
import DocQuery.Proofs.Compile.Reordering
import DocQuery.Proofs.Compile.Repetition
import DocQuery.Proofs.Compile.Run
import DocQuery.Proofs.Compile.Shape
import DocQuery.Proofs.Compile.Written
import DocQuery.Proofs.Dict.Insert
import DocQuery.Proofs.Dict.Last
import DocQuery.Proofs.Filter.Argument
import DocQuery.Proofs.Filter.Closed
import DocQuery.Proofs.Filter.Equality
import DocQuery.Proofs.Filter.Form
import DocQuery.Proofs.Filter.Grammar
import DocQuery.Proofs.Filter.Operator
import DocQuery.Proofs.Filter.Steady
import DocQuery.Proofs.Filter.Written
import DocQuery.Proofs.Json.Grammar
import DocQuery.Proofs.Json.Reading
import DocQuery.Proofs.Json.Value
import DocQuery.Proofs.Literal.Cast
import DocQuery.Proofs.Literal.Caster
import DocQuery.Proofs.Literal.Kind
import DocQuery.Proofs.Literal.Number
import DocQuery.Proofs.Literal.Pattern
import DocQuery.Proofs.Literal.Refusal
import DocQuery.Proofs.Literal.Word
import DocQuery.Proofs.Literal.Written
import DocQuery.Proofs.Number.Decimal
import DocQuery.Proofs.Number.Digits
import DocQuery.Proofs.Number.Grammar
import DocQuery.Proofs.Order.Reordering
import DocQuery.Proofs.Outcome
import DocQuery.Proofs.Projection.Literal
import DocQuery.Proofs.Projection.Plain
import DocQuery.Proofs.Projection.Share
import DocQuery.Proofs.Projection.Tokens
import DocQuery.Proofs.Query.Exchange
import DocQuery.Proofs.Query.Lossless
import DocQuery.Proofs.Relation.Address
import DocQuery.Proofs.Relation.Branches
import DocQuery.Proofs.Relation.Exchange
import DocQuery.Proofs.Relation.First
import DocQuery.Proofs.Relation.Flat
import DocQuery.Proofs.Relation.InPlace
import DocQuery.Proofs.Relation.Insertion
import DocQuery.Proofs.Relation.Listing
import DocQuery.Proofs.Relation.Owner
import DocQuery.Proofs.Relation.Path
import DocQuery.Proofs.Relation.Reach
import DocQuery.Proofs.Relation.Routing
import DocQuery.Proofs.Relation.Shape
import DocQuery.Proofs.Relation.Update
import DocQuery.Proofs.Text.Blank
import DocQuery.Proofs.Text.Percent
import DocQuery.Proofs.Text.Split
import DocQuery.Proofs.Text.Token
import DocQuery.Proofs.Text.Utf8
import DocQuery.Proofs.Value.Form
import DocQuery.Proofs.Value.Ordinary
import DocQuery.Proofs.Value.Steady
import DocQuery.Query.Basic
import DocQuery.Query.Document
import DocQuery.Relation.Basic
import DocQuery.Relation.Population
import DocQuery.Settings
import DocQuery.Text.Base64
import DocQuery.Text.Basic
import DocQuery.Text.Blank
import DocQuery.Text.Hex
import DocQuery.Text.Percent
import DocQuery.Text.Printable
import DocQuery.Text.Quoted
import DocQuery.Text.Range
import DocQuery.Text.Utf8
import DocQuery.Text.Word
import DocQuery.Value.Basic
import DocQuery.Value.Extended
