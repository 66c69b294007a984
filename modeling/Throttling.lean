import Throttling.Codec.Config
import Throttling.Codec.Definitions
import Throttling.Codec.Transaction
import Throttling.Codec.Usage
import Throttling.Gate.Query
import Throttling.Gate.Settings
import Throttling.Json.Printer
import Throttling.Proofs.Bucket.Load
import Throttling.Proofs.Bucket.Operations
import Throttling.Proofs.Bucket.Fluid
import Throttling.Proofs.Draws
import Throttling.Proofs.Bucket.Alike
import Throttling.Proofs.Definitions
import Throttling.Proofs.Gate.Admission
import Throttling.Proofs.Gate.Erasure
import Throttling.Proofs.Rates
import Throttling.Proofs.Bucket.Conformance
import Throttling.Proofs.Bucket.Checked
import Throttling.Proofs.Gate.Accounting
import Throttling.Proofs.Snapshot
import Throttling.Proofs.Gate.Exemption
import Throttling.Proofs.Starvation
import Throttling.Proofs.Rlp
import Throttling.Proofs.Ethereum
import Throttling.Proofs.Gate.Reversal
import Throttling.Proofs.Bucket.Rollback
import Throttling.Proofs.AllOrNothing
import Throttling.Proofs.Gate.Commutation
import Throttling.Proofs.Compilation
import Throttling.Proofs.Assembly
import Throttling.Proofs.Gate.Queries
import Throttling.Proofs.Gate.Reclamation
import Throttling.Proofs.Charges
import Throttling.Proofs.Gate.Batches
import Throttling.Proofs.Gate.Scheduling
import Throttling.Proofs.References
import Throttling.Proofs.Refill
import Throttling.Proofs.ScaleFactor
import Throttling.Proofs.Clock
import Throttling.Proofs.Rounding
