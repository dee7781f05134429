import Relmap.Catalog.Document
import Relmap.Catalog.FilterTarget
import Relmap.Criterion.Document
import Relmap.Decimal.Reader
import Relmap.Query.FilterDocument
import Relmap.Query.Prefetch
import Relmap.Query.Resolve
import Relmap.Schema.MySql
import Relmap.Schema.Order
import Relmap.Schema.Postgres
import Relmap.Schema.Sqlite
import Relmap.Proofs.Outcome
import Relmap.Proofs.Query.Built
import Relmap.Proofs.Query.Truth
import Relmap.Proofs.Query.Meaning
import Relmap.Proofs.Text.Words
import Relmap.Proofs.Value.Word
import Relmap.Proofs.Criterion.Shape
import Relmap.Proofs.Criterion.Words
import Relmap.Proofs.Criterion.Clauses
import Relmap.Proofs.Criterion.Reading
import Relmap.Proofs.Catalog.Basic
import Relmap.Proofs.Schema.Order
import Relmap.Proofs.Schema.Spelling
import Relmap.Proofs.Schema.Layout
import Relmap.Proofs.Schema.Assembly
import Relmap.Proofs.Schema.Creation
import Relmap.Proofs.Catalog.FilterTarget
import Relmap.Proofs.Catalog.Linking
import Relmap.Proofs.Catalog.Validity
import Relmap.Proofs.Catalog.Extension
import Relmap.Proofs.Catalog.KeyTypes
import Relmap.Proofs.Query.Join
import Relmap.Proofs.Query.Faults
import Relmap.Proofs.Query.Keys
import Relmap.Proofs.Query.Acceptance
import Relmap.Proofs.Query.Paths
import Relmap.Proofs.Query.Subterms
import Relmap.Proofs.Query.Route
import Relmap.Proofs.Query.Passages
import Relmap.Proofs.Query.Scope
import Relmap.Proofs.Query.Groups
import Relmap.Proofs.Query.Tables
import Relmap.Proofs.Schema.Enforcement
import Relmap.Proofs.Query.Reversal
import Relmap.Proofs.Query.Configuration
import Relmap.Proofs.Query.Registration
import Relmap.Proofs.Schema.LinkTables
import Relmap.Proofs.Query.Rows
import Relmap.Proofs.Query.Shortcut
import Relmap.Proofs.Query.Parts
import Relmap.Proofs.Query.Endings
import Relmap.Proofs.Value.Reader
import Relmap.Proofs.Schema.LeastOrder
import Relmap.Proofs.Text.Patterns
import Relmap.Proofs.Query.Searches
import Relmap.Proofs.Query.Complements
import Relmap.Proofs.Query.PathKeys
import Relmap.Proofs.Catalog.RegisteredKeys
import Relmap.Proofs.Query.Documents
import Relmap.Proofs.Schema.Comments
import Relmap.Proofs.Catalog.Lineage
import Relmap.Proofs.Schema.QuotedComments
import Relmap.Proofs.Schema.Templates
import Relmap.Proofs.Text.Replacement
import Relmap.Proofs.Schema.ColumnTypes
import Relmap.Proofs.Schema.GeneratedKeys
import Relmap.Proofs.Criterion.ShapeText
import Relmap.Proofs.Query.Regrouping
import Relmap.Proofs.Query.CustomFilters
import Relmap.Proofs.Schema.Naming
