import SqlClient.Descriptor.Reading
import SqlClient.Json.Parser
import SqlClient.Pool.Call
import SqlClient.Proofs.Pool.LiveSessions
import SqlClient.Registry
import SqlClient.Scenario
import SqlClient.Settings.Load
import SqlClient.Settings.Reading
import SqlClient.Proofs.Paging
import SqlClient.Proofs.Pool.Call
import SqlClient.Proofs.Pool.Execution
import SqlClient.Proofs.Pool.Closing
import SqlClient.Proofs.Pool.Rest
import SqlClient.Proofs.Pool.Eviction
import SqlClient.Proofs.Pool.Refill
import SqlClient.Proofs.Pool.Drain
import SqlClient.Proofs.Statement.Literal
import SqlClient.Proofs.Statement.Quotes
import SqlClient.Proofs.Statement.Reading
import SqlClient.Proofs.Statement.NormalForm
import SqlClient.Proofs.Statement.Operands
import SqlClient.Proofs.Statement.Unique
import SqlClient.Proofs.Entries
import SqlClient.Proofs.Json.Records
import SqlClient.Proofs.Outcome
import SqlClient.Proofs.Descriptor.Acceptance
import SqlClient.Proofs.Descriptor.Building
import SqlClient.Proofs.Number.Rounding
import SqlClient.Proofs.Number.Shortest
import SqlClient.Proofs.Number.Layout
import SqlClient.Proofs.Result.Numbers
import SqlClient.Proofs.Settings.Layers
import SqlClient.Proofs.Settings.Selection
import SqlClient.Proofs.Settings.Loading
import SqlClient.Proofs.Number.Nearest
import SqlClient.Proofs.Number.Offsets
import SqlClient.Proofs.Result.Prefixes
import SqlClient.Proofs.Number.Whole
import SqlClient.Proofs.Result.SecondPass
import SqlClient.Proofs.Number.LargeText
import SqlClient.Proofs.Statement.Integers
import SqlClient.Proofs.Template.Replacement
import SqlClient.Proofs.Template.OnePass
import SqlClient.Proofs.Template.Modes
import SqlClient.Proofs.Statement.Members
import SqlClient.Proofs.Result.Columns
import SqlClient.Proofs.CountCells
import SqlClient.Proofs.Template.NestedLists
import SqlClient.Proofs.Pool.SoftTimeout
import SqlClient.Proofs.Registrations
