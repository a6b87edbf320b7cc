import FieldQuery.Argument.Descriptor
import FieldQuery.Argument.List
import FieldQuery.Calendar.Date
import FieldQuery.Calendar.DateTime
import FieldQuery.Calendar.Iso
import FieldQuery.Calendar.Reader
import FieldQuery.Compose.Filter
import FieldQuery.Compose.OrderBy
import FieldQuery.Compose.Paging
import FieldQuery.Compose.Plan
import FieldQuery.Config
import FieldQuery.Config.Text
import FieldQuery.Discovery
import FieldQuery.Error
import FieldQuery.Format
import FieldQuery.Graph.Call
import FieldQuery.Graph.Execution
import FieldQuery.Graph.Output
import FieldQuery.Graph.Schema
import FieldQuery.Json.Basic
import FieldQuery.Json.Text
import FieldQuery.Literal
import FieldQuery.Mapping
import FieldQuery.Mapping.Text
import FieldQuery.Number.Basic
import FieldQuery.Number.Binary64
import FieldQuery.Number.Decimal
import FieldQuery.Path.Access
import FieldQuery.Path.Entity
import FieldQuery.Path.Member
import FieldQuery.Query.Documents
import FieldQuery.Query.Evaluation
import FieldQuery.Query.Expr
import FieldQuery.Query.Memory
import FieldQuery.Query.Ordering
import FieldQuery.Query.Parameter
import FieldQuery.Query.Queryable
import FieldQuery.Query.Statement
import FieldQuery.Request
import FieldQuery.Schema.GraphType
import FieldQuery.Schema.Hotel
import FieldQuery.Schema.ObjectType
import FieldQuery.Schema.Record
import FieldQuery.Text.Alphanumeric
import FieldQuery.Text.AsciiCase
import FieldQuery.Text.Blank
import FieldQuery.Text.Cased
import FieldQuery.Text.CodeRange
import FieldQuery.Text.Digits
import FieldQuery.Text.Distance
import FieldQuery.Text.Fold
import FieldQuery.Text.Hidden
import FieldQuery.Text.Lower
import FieldQuery.Text.Quoted
import FieldQuery.Wildcard
import FieldQuery.Yaml.Format
import FieldQuery.Yaml.Mark
import FieldQuery.Yaml.Node
import FieldQuery.Yaml.Scalar
import FieldQuery.Yaml.Tag
import FieldQuery.Yaml.Token
import FieldQuery.Proofs.Number.Rounding
import FieldQuery.Proofs.Path.Dotted
import FieldQuery.Proofs.Path.Reach
import FieldQuery.Proofs.Path.Fit
import FieldQuery.Proofs.Query.Evaluation
import FieldQuery.Proofs.Query.Ordering
import FieldQuery.Proofs.Query.Reading
import FieldQuery.Proofs.Query.Run
import FieldQuery.Proofs.Query.Refinement
import FieldQuery.Proofs.Discovery.Chains
import FieldQuery.Proofs.Discovery.Conform
import FieldQuery.Proofs.Compose.Filter
import FieldQuery.Proofs.Compose.Stumble
import FieldQuery.Proofs.Query.Preorder
import FieldQuery.Proofs.Query.Reordering
import FieldQuery.Proofs.Compose.Faults
import FieldQuery.Proofs.Compose.Words
import FieldQuery.Proofs.Query.Placeholders
import FieldQuery.Proofs.Argument.History
import FieldQuery.Proofs.Argument.Pseudo
import FieldQuery.Proofs.Compose.Supplied
import FieldQuery.Proofs.Query.Quoting
import FieldQuery.Proofs.Query.PathKeys
import FieldQuery.Proofs.Wildcard.Glob
import FieldQuery.Proofs.Wildcard.Expression
import FieldQuery.Proofs.Query.Stored
import FieldQuery.Proofs.Compose.Lookups
import FieldQuery.Proofs.Compose.Pages
import FieldQuery.Proofs.Compose.OrderGrammar
import FieldQuery.Proofs.Text.LowerCase
import FieldQuery.Proofs.Discovery.Names
import FieldQuery.Proofs.Calendar.Days
import FieldQuery.Proofs.Calendar.Numerals
import FieldQuery.Proofs.Calendar.IsoForm
import FieldQuery.Proofs.Compose.Day
import FieldQuery.Proofs.Query.Propagation
import FieldQuery.Proofs.Query.Joined
import FieldQuery.Proofs.Text.Decimal
import FieldQuery.Proofs.Compose.Paging
import FieldQuery.Proofs.Compose.Numbering
import FieldQuery.Proofs.Query.Aliases
import FieldQuery.Proofs.Query.Clauses
import FieldQuery.Proofs.Query.StableOrder
import FieldQuery.Proofs.Query.IntegerLimit
import FieldQuery.Proofs.Calendar.Minutes
import FieldQuery.Proofs.Calendar.Timestamp
import FieldQuery.Proofs.Compose.OrderText
import FieldQuery.Proofs.Number.Nearest
import FieldQuery.Proofs.Query.Converted
import FieldQuery.Proofs.Mapping.BothWays
import FieldQuery.Proofs.Graph.Served
import FieldQuery.Proofs.Argument.Partition
