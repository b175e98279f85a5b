import EntityQuery.Codec
import EntityQuery.Compile.Alias
import EntityQuery.Compile.Draft
import EntityQuery.Compile.Error
import EntityQuery.Compile.Predicate
import EntityQuery.Compile.Query
import EntityQuery.Compile.Visit
import EntityQuery.Decimal.Arithmetic
import EntityQuery.Decimal.Binary64
import EntityQuery.Decimal.Notation
import EntityQuery.Decimal.Reading
import EntityQuery.Decimal.Shortest
import EntityQuery.Direction
import EntityQuery.FieldMap
import EntityQuery.Json.Basic
import EntityQuery.Json.Parser
import EntityQuery.Json.Printer
import EntityQuery.Proofs.Acceptance.Clauses
import EntityQuery.Proofs.Acceptance.Consulting
import EntityQuery.Proofs.Acceptance.Demands
import EntityQuery.Proofs.Acceptance.Nulls
import EntityQuery.Proofs.Acceptance.Operands
import EntityQuery.Proofs.Acceptance.WellTyped
import EntityQuery.Proofs.Compile.Aliases
import EntityQuery.Proofs.Compile.Appending
import EntityQuery.Proofs.Compile.Bindings
import EntityQuery.Proofs.Compile.Branches
import EntityQuery.Proofs.Compile.Joins
import EntityQuery.Proofs.Compile.Ordering
import EntityQuery.Proofs.Compile.Paths
import EntityQuery.Proofs.Compile.Plan
import EntityQuery.Proofs.Compile.Predicate
import EntityQuery.Proofs.Compile.Run
import EntityQuery.Proofs.Compile.Scope
import EntityQuery.Proofs.Compile.Shape
import EntityQuery.Proofs.Compile.SortColumns
import EntityQuery.Proofs.Compile.Stops
import EntityQuery.Proofs.Compile.Visits
import EntityQuery.Proofs.Document.Acceptance
import EntityQuery.Proofs.Document.Expressible
import EntityQuery.Proofs.Document.Grammar
import EntityQuery.Proofs.Document.Outcomes
import EntityQuery.Proofs.Document.Printing
import EntityQuery.Proofs.Finite.Compilation
import EntityQuery.Proofs.Finite.Counts
import EntityQuery.Proofs.Finite.Rendering
import EntityQuery.Proofs.Insertions
import EntityQuery.Proofs.Lexing.Lexer
import EntityQuery.Proofs.Lexing.Numbers
import EntityQuery.Proofs.Lexing.Pieces
import EntityQuery.Proofs.Lexing.Statement
import EntityQuery.Proofs.Lexing.Tokens
import EntityQuery.Proofs.Outcome
import EntityQuery.Proofs.Redaction.Plans
import EntityQuery.Proofs.Redaction.Predicates
import EntityQuery.Proofs.Redaction.Specs
import EntityQuery.Proofs.Redaction.Tokens
import EntityQuery.Proofs.Rendering.Building
import EntityQuery.Proofs.Rendering.Dialects
import EntityQuery.Proofs.Rendering.Pages
import EntityQuery.Proofs.Rendering.Reader
import EntityQuery.Proofs.Rendering.Rewriting
import EntityQuery.Proofs.Rendering.Vocabulary
import EntityQuery.Proofs.Reordering.Filters
import EntityQuery.Proofs.Reordering.Plans
import EntityQuery.Proofs.Reordering.Renaming
import EntityQuery.Proofs.Reordering.Specs
import EntityQuery.Proofs.Schema.Catalog
import EntityQuery.Proofs.Schema.Entity
import EntityQuery.Proofs.Schema.Settings
import EntityQuery.Proofs.Semantics.Clauses
import EntityQuery.Proofs.Semantics.Evaluation
import EntityQuery.Proofs.Semantics.Preservation
import EntityQuery.Proofs.Semantics.Reading
import EntityQuery.Proofs.Semantics.Solutions
import EntityQuery.Proofs.Spelling.Clauses
import EntityQuery.Proofs.Spelling.Plans
import EntityQuery.Proofs.Spelling.Specs
import EntityQuery.Proofs.Staff
import EntityQuery.Schema.Catalog
import EntityQuery.Schema.Entity
import EntityQuery.Schema.IndexedEntity
import EntityQuery.Settings.Basic
import EntityQuery.Settings.Reader
import EntityQuery.Settings.Search
import EntityQuery.Spec.Basic
import EntityQuery.Spec.Filter
import EntityQuery.Spec.Operator
import EntityQuery.Spec.Reader
import EntityQuery.Spec.SortOrder
import EntityQuery.Sql.Dialect
import EntityQuery.Sql.Expr
import EntityQuery.Sql.Layout
import EntityQuery.Sql.Query
import EntityQuery.Sql.Quoting
import EntityQuery.Sql.Token
import EntityQuery.Text.Alphabetic
import EntityQuery.Text.Blank
import EntityQuery.Text.Case
import EntityQuery.Text.Combining
import EntityQuery.Text.Digits
import EntityQuery.Text.Printable
import EntityQuery.Text.Quoted
import EntityQuery.Text.Ranges
import EntityQuery.Toml.Basic
import EntityQuery.Toml.Document
import EntityQuery.Toml.Outline
import EntityQuery.Toml.Quoted
import EntityQuery.Toml.Scalar
import EntityQuery.Value
