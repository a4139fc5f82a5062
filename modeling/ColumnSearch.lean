import ColumnSearch.Main
import ColumnSearch.Predicate.Reader
import ColumnSearch.Proofs.Clause.Meaning
import ColumnSearch.Proofs.Expr.Grammar
import ColumnSearch.Proofs.Except
import ColumnSearch.Proofs.Expr.Reading
import ColumnSearch.Proofs.Expr.Parse
import ColumnSearch.Proofs.Clause.Limit
import ColumnSearch.Proofs.Predicate.Meaning
import ColumnSearch.Proofs.Search.Meaning
import ColumnSearch.Proofs.Clause.Presence
import ColumnSearch.Proofs.Expr.Terms
import ColumnSearch.Proofs.Predicate.Entries
import ColumnSearch.Proofs.Predicate.Fault
import ColumnSearch.Proofs.Search.Outcome
import ColumnSearch.Proofs.Binary64.Rounding
import ColumnSearch.Proofs.Search.Terms
import ColumnSearch.Proofs.Binary64.Shortest
import ColumnSearch.Proofs.Numeral
import ColumnSearch.Proofs.Json.Numeral
import ColumnSearch.Proofs.Json.TextLiteral
import ColumnSearch.Proofs.Json.RoundTrip
import ColumnSearch.Proofs.Json.Canonical
import ColumnSearch.Proofs.Predicate.Canonical
import ColumnSearch.Proofs.Search.RoundTrip
import ColumnSearch.Proofs.Search.Blank
import ColumnSearch.Proofs.Sha256
import ColumnSearch.Proofs.Batch
import ColumnSearch.Proofs.Expr.Failure
import ColumnSearch.Proofs.Token.Spelling
import ColumnSearch.Proofs.Token.Render
import ColumnSearch.Proofs.Policy
import ColumnSearch.Proofs.Search.Limits
import ColumnSearch.Proofs.Expr.Render
import ColumnSearch.Proofs.Search.Stages
import ColumnSearch.Proofs.Batch.Deletion
import ColumnSearch.Proofs.Clause.Flatten
import ColumnSearch.Proofs.Search.Grouping
import ColumnSearch.Proofs.Clause.Count
import ColumnSearch.Proofs.Search.ClauseCount
import ColumnSearch.Proofs.Clause.Occurrence
import ColumnSearch.Proofs.Clause.Order
import ColumnSearch.Proofs.Expr.Reached
import ColumnSearch.Proofs.Expr.Sugar
import ColumnSearch.Proofs.Expr.Closing
import ColumnSearch.Proofs.Predicate.Layout
import ColumnSearch.Proofs.Token.Significant
import ColumnSearch.Proofs.Token.Pieces
import ColumnSearch.Proofs.Search.Spacing
import ColumnSearch.Proofs.Batch.Echo
import ColumnSearch.Proofs.Target
import ColumnSearch.Proofs.Binary64.Overflow
import ColumnSearch.Proofs.Number
import ColumnSearch.Proofs.Predicate.Values
import ColumnSearch.Proofs.Expr.Typed
import ColumnSearch.Proofs.Search.Values
import ColumnSearch.Proofs.Search.Sizes
import ColumnSearch.Proofs.Stage
import ColumnSearch.Proofs.CommandLine.Blank
import ColumnSearch.Proofs.Number.Text
import ColumnSearch.Proofs.Json.Visible
import ColumnSearch.Proofs.Batch.Output
import ColumnSearch.Proofs.Yaml.Mapping
import ColumnSearch.Proofs.Number.Count
import ColumnSearch.Proofs.Policy.Fields
import ColumnSearch.Proofs.Policy.File
