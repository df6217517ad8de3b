import MergeTrain.Cancellation
import MergeTrain.CommandLine.Commands
import MergeTrain.Main
import MergeTrain.Policy.Json
import MergeTrain.Proofs.Queue.Order
import MergeTrain.Proofs.Queue.Ledger
import MergeTrain.Proofs.Registry
import MergeTrain.Proofs.Train.Effect
import MergeTrain.Proofs.Train.Route
import MergeTrain.Proofs.Train.Move
import MergeTrain.Proofs.Train.Freshness
import MergeTrain.Proofs.Train.Still
import MergeTrain.Proofs.Train.Gate
import MergeTrain.Proofs.Train.Departure
import MergeTrain.Proofs.Train.Bystander
import MergeTrain.Proofs.Train.History
import MergeTrain.Proofs.Train.Live
import MergeTrain.Proofs.Train.Unmatched
import MergeTrain.Proofs.Train.Frame
import MergeTrain.Proofs.Train.Expiry
import MergeTrain.Proofs.Train.Accounts
import MergeTrain.Proofs.Train.Stale
import MergeTrain.Proofs.Train.Verdict
import MergeTrain.Proofs.Queue.Arrival
import MergeTrain.Proofs.Train.FirstCome
import MergeTrain.Proofs.Train.Answer
import MergeTrain.Proofs.Train.Drain
import MergeTrain.Proofs.Train.Again
import MergeTrain.Proofs.Train.Escape
import MergeTrain.Proofs.Train.Served
import MergeTrain.Proofs.Train.Place
import MergeTrain.Proofs.Train.Twin
import MergeTrain.Proofs.Train.Unpaid
import MergeTrain.Proofs.Train.Entitled
import MergeTrain.Proofs.Registry.Cells
import MergeTrain.Proofs.Train.Commute
import MergeTrain.Proofs.Train.Tidy
import MergeTrain.Proofs.Registry.Held
import MergeTrain.Proofs.Policy.RoundTrip
import MergeTrain.Proofs.EntitlementCache.Owners
import MergeTrain.Proofs.EntitlementCache.Windows
import MergeTrain.Proofs.Simulation
import MergeTrain.Proofs.Cancellation
import MergeTrain.Proofs.Checklist
import MergeTrain.Proofs.CommitMessage
import MergeTrain.Proofs.MergeFailure
import MergeTrain.Proofs.Registry.Elsewhere
import MergeTrain.Proofs.Listing
import MergeTrain.Proofs.Train.Recovery
import MergeTrain.Proofs.Priority
import MergeTrain.Proofs.Policy.Priority
import MergeTrain.Proofs.Checks
import MergeTrain.Proofs.Instant.Calendar
import MergeTrain.Proofs.Instant.Rfc3339
import MergeTrain.Proofs.Json.Fields
import MergeTrain.Proofs.Spelled
import MergeTrain.Proofs.Wire
import MergeTrain.Proofs.Json.Token
import MergeTrain.Proofs.Json.Reader
