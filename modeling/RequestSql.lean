import RequestSql.Main
import RequestSql.Proofs.Recognition
import RequestSql.Proofs.Joins
import RequestSql.Proofs.Numbering
import RequestSql.Proofs.Literals
import RequestSql.Proofs.Delimiters
import RequestSql.Proofs.Boundaries
import RequestSql.Proofs.Directives
import RequestSql.Proofs.Quotations
import RequestSql.Proofs.Encoding
import RequestSql.Proofs.Sources
import RequestSql.Proofs.RawQueries
import RequestSql.Proofs.Printing
import RequestSql.Proofs.Documents
import RequestSql.Proofs.Declarations
import RequestSql.Proofs.Conditions
import RequestSql.Proofs.RoundTrip
import RequestSql.Proofs.Groupings
import RequestSql.Proofs.Expansions
import RequestSql.Proofs.Cursor
import RequestSql.Proofs.Layout
import RequestSql.Proofs.Viability
import RequestSql.Proofs.Reuse
import RequestSql.Proofs.Additions
import RequestSql.Proofs.Projections
import RequestSql.Proofs.Identifiers
import RequestSql.Proofs.Integers
import RequestSql.Proofs.Rows
import RequestSql.Proofs.Heights
import RequestSql.Proofs.Resolution
import RequestSql.Proofs.Parentheses
