import BoundSql.Json.Reader
import BoundSql.Error.Message
import BoundSql.Change.Agreement
import BoundSql.Table.Run
import BoundSql.Rehearsal.Session
import BoundSql.Proofs.Text.Cut
import BoundSql.Proofs.Text.Digits
import BoundSql.Proofs.Binary.Reading
import BoundSql.Proofs.Binary.Rounding
import BoundSql.Proofs.Binary.Shortest
import BoundSql.Proofs.Binary.Widening
import BoundSql.Proofs.Json.Fields
import BoundSql.Proofs.Json.Text
import BoundSql.Proofs.Value.Equality
import BoundSql.Proofs.Value.Interval
import BoundSql.Proofs.Value.Key
import BoundSql.Proofs.Value.Received
import BoundSql.Proofs.Value.Sending
import BoundSql.Proofs.Statement.Clearance
import BoundSql.Proofs.Statement.Fragment
import BoundSql.Proofs.Statement.Numbering
import BoundSql.Proofs.Statement.Placeholders
import BoundSql.Proofs.Statement.Qualifiers
import BoundSql.Proofs.Statement.Recovery
import BoundSql.Proofs.Statement.Refinement
import BoundSql.Proofs.Statement.Relabelling
import BoundSql.Proofs.Statement.Sharing
import BoundSql.Proofs.Statement.Shown
import BoundSql.Proofs.Statement.Spacing
import BoundSql.Proofs.Statement.Writers
import BoundSql.Proofs.Condition.Branches
import BoundSql.Proofs.Condition.Emptiness
import BoundSql.Proofs.Condition.Families
import BoundSql.Proofs.Condition.Grammar
import BoundSql.Proofs.Condition.Pins
import BoundSql.Proofs.Condition.RoundTrip
import BoundSql.Proofs.Condition.Truth
import BoundSql.Proofs.Options.Clauses
import BoundSql.Proofs.Change.Assigned
import BoundSql.Proofs.Change.Carried
import BoundSql.Proofs.Change.Interchange
import BoundSql.Proofs.Change.Matching
import BoundSql.Proofs.Change.SetList
import BoundSql.Proofs.Error.Kinds
import BoundSql.Proofs.Rows.Drawing
import BoundSql.Proofs.Table.Assembly
import BoundSql.Proofs.Table.Collecting
import BoundSql.Proofs.Table.Declared
import BoundSql.Proofs.Table.Registration
import BoundSql.Proofs.Transaction.Concluding
import BoundSql.Proofs.Transaction.Course
import BoundSql.Proofs.Transaction.Ending
import BoundSql.Proofs.Transaction.Keeping
import BoundSql.Proofs.Transaction.Nesting
import BoundSql.Proofs.Transaction.Settling
import BoundSql.Proofs.Database.Backend
import BoundSql.Proofs.Database.Basic
import BoundSql.Proofs.Database.Depth
import BoundSql.Proofs.Database.Discarded
import BoundSql.Proofs.Database.Handover
import BoundSql.Proofs.Database.Kept
import BoundSql.Proofs.Database.Outcome
import BoundSql.Proofs.Client.Basic
import BoundSql.Proofs.Client.Cleaning
import BoundSql.Proofs.Client.Ownership
import BoundSql.Proofs.Pool.Isolation
import BoundSql.Proofs.Pool.Traffic
