import TieWalk.Json.Plan
import TieWalk.Request.Run
import TieWalk.Text.Scientific
import TieWalk.Proofs.Query.Reading
import TieWalk.Proofs.Walk.Modes
import TieWalk.Proofs.Request.Success
import TieWalk.Proofs.Request.Meaning
import TieWalk.Proofs.Query.Checking
import TieWalk.Proofs.Query.Spelling
import TieWalk.Proofs.Query.NormalForm
import TieWalk.Proofs.Request.Report
import TieWalk.Proofs.Relation.Cells
import TieWalk.Proofs.Relation.Encoding
import TieWalk.Proofs.Relation.Readers
import TieWalk.Proofs.Table.Crossing
import TieWalk.Proofs.Request.Interchange
import TieWalk.Proofs.Request.Validity
import TieWalk.Proofs.Request.Refusal
import TieWalk.Proofs.Query.Verdict
import TieWalk.Proofs.Table.Beside
import TieWalk.Proofs.Json.Restoring
import TieWalk.Proofs.Request.Types
import TieWalk.Proofs.Relation.Selecting
import TieWalk.Proofs.Relation.Delivered
import TieWalk.Proofs.Table.Relational
import TieWalk.Proofs.Table.Partition
import TieWalk.Proofs.Relation.Newest
import TieWalk.Proofs.Plan.Simplified
import TieWalk.Proofs.Query.Alone
import TieWalk.Proofs.Plan.Routes
import TieWalk.Proofs.Request.OutputNames
import TieWalk.Proofs.Query.Places
import TieWalk.Proofs.Relation.Unambiguous
