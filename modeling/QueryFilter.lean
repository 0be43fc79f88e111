import QueryFilter.Application
import QueryFilter.Backend
import QueryFilter.Binary64.Basic
import QueryFilter.Binary64.Rounded
import QueryFilter.Binary64.Shortest
import QueryFilter.Calendar.Date
import QueryFilter.Calendar.Iso
import QueryFilter.Calendar.Pattern
import QueryFilter.Calendar.Resolve
import QueryFilter.Catalog
import QueryFilter.Check
import QueryFilter.Coercion
import QueryFilter.Column
import QueryFilter.Column.Raw
import QueryFilter.Condition
import QueryFilter.Config
import QueryFilter.Declaration
import QueryFilter.Derivation
import QueryFilter.Dispatch
import QueryFilter.Fault
import QueryFilter.Keyed
import QueryFilter.Logger
import QueryFilter.Numeral.Decimal
import QueryFilter.Numeral.Integer
import QueryFilter.Predicate
import QueryFilter.Refusal
import QueryFilter.Settings
import QueryFilter.Source
import QueryFilter.Spec
import QueryFilter.Statement
import QueryFilter.Tag
import QueryFilter.Template
import QueryFilter.Template.Directive
import QueryFilter.Template.Form
import QueryFilter.Text.Blank
import QueryFilter.Text.Digit
import QueryFilter.Text.Letter
import QueryFilter.Text.LetterTable
import QueryFilter.Text.Printable
import QueryFilter.Text.Quoted
import QueryFilter.Text.Split
import QueryFilter.Trace
import QueryFilter.Traversal
import QueryFilter.Value.Basic
import QueryFilter.Value.Dates
import QueryFilter.Value.Elements
import QueryFilter.Value.Equal
import QueryFilter.Value.Json
import QueryFilter.Value.Literal
import QueryFilter.Value.Pairs
import QueryFilter.Value.Written
import QueryFilter.Proofs.Outcome
import QueryFilter.Proofs.Path
import QueryFilter.Proofs.Contribution
import QueryFilter.Proofs.SchemaDerivation
import QueryFilter.Proofs.Derived
import QueryFilter.Proofs.Route
import QueryFilter.Proofs.Failure
import QueryFilter.Proofs.Exposure
import QueryFilter.Proofs.Request
import QueryFilter.Proofs.Day
import QueryFilter.Proofs.WellFormed
import QueryFilter.Proofs.Lines
import QueryFilter.Proofs.Independence
import QueryFilter.Proofs.Landing
import QueryFilter.Proofs.Agreement
import QueryFilter.Proofs.Objection
import QueryFilter.Proofs.Validation
import QueryFilter.Proofs.Strictness
import QueryFilter.Proofs.QuerySettings
import QueryFilter.Proofs.Coercible
import QueryFilter.Proofs.Layers
import QueryFilter.Proofs.Usable
import QueryFilter.Proofs.WholeDecimal
import QueryFilter.Proofs.LeadingInteger
import QueryFilter.Proofs.DateFormat
import QueryFilter.Proofs.Naming
import QueryFilter.Proofs.Qualified
import QueryFilter.Proofs.NormalDay
import QueryFilter.Proofs.FilterShapes
import QueryFilter.Proofs.LongestNumeral
import QueryFilter.Proofs.Delimited
