import SqlStore.Serial.Query
import SqlStore.Table.Sample
import SqlStore.Describe
import SqlStore.Config.File
import SqlStore.Engine.Schedule
import SqlStore.Proofs.Text.Numeral
import SqlStore.Proofs.Text.Piece
import SqlStore.Proofs.Text.Token
import SqlStore.Proofs.Text.Literal
import SqlStore.Proofs.Condition.Clause
import SqlStore.Proofs.Condition.Precedence
import SqlStore.Proofs.Engine.Tickets
import SqlStore.Proofs.Engine.Order
import SqlStore.Proofs.Engine.Linearization
import SqlStore.Proofs.Engine.Drain
import SqlStore.Proofs.Engine.Barrier
import SqlStore.Proofs.Migration.Nested
import SqlStore.Proofs.Text.Redaction
import SqlStore.Proofs.Statement.Redact
import SqlStore.Proofs.Statement.Operand
import SqlStore.Proofs.Statement.Closed
import SqlStore.Proofs.Store.Version
import SqlStore.Proofs.Store.Equality
import SqlStore.Proofs.Store.Alike
import SqlStore.Proofs.Query.Validity
import SqlStore.Proofs.Database.Refusal
import SqlStore.Proofs.Database.RoundTrip
import SqlStore.Proofs.Database.Status
import SqlStore.Proofs.Database.Transaction
import SqlStore.Proofs.Database.Loading
import SqlStore.Proofs.Database.Limit
import SqlStore.Proofs.Query.Join
import SqlStore.Proofs.Query.Filter
import SqlStore.Proofs.Database.Selected
import SqlStore.Proofs.Database.Rebuild
import SqlStore.Proofs.Database.Nesting
import SqlStore.Proofs.Serial.Document
import SqlStore.Proofs.Condition.Qualification
import SqlStore.Proofs.Query.Steps
import SqlStore.Proofs.Statement.Listing
import SqlStore.Proofs.Statement.Insert
import SqlStore.Proofs.Statement.Declaration
import SqlStore.Proofs.Text.Constant
import SqlStore.Proofs.Database.Reachable
