import NodeSync.SortedMap
import NodeSync.Text.Blank
import NodeSync.Text.Quoted
import NodeSync.Json.Reader
import NodeSync.Json.Printer
import NodeSync.Json.Decoder
import NodeSync.Timestamp
import NodeSync.Resource.Node
import NodeSync.Resource.MachineSet
import NodeSync.Provenance
import NodeSync.TaintSet
import NodeSync.Selection
import NodeSync.Backoff
import NodeSync.Store.Memory
import NodeSync.Requeue
import NodeSync.Trigger
import NodeSync.SocketAddress
import NodeSync.Configuration
import NodeSync.Http.Target
import NodeSync.Http.Status
import NodeSync.Store.Remote
import NodeSync.Metrics.Endpoint
import NodeSync.Rehearsal.Stage
import NodeSync.Proofs.Provenance.Record
import NodeSync.Proofs.TaintSet.Repeats
import NodeSync.Proofs.LabelSync
import NodeSync.Proofs.NodeTaints
import NodeSync.Proofs.Pass.Repetition
import NodeSync.Proofs.Pass.Recovery
import NodeSync.Proofs.Pass.ForeignLabels
import NodeSync.Proofs.Pass.Rehearsed
import NodeSync.Proofs.Pass.Conduct
import NodeSync.Proofs.Pass.LabelHistory
import NodeSync.Proofs.Store.Stamps
import NodeSync.Proofs.Pass.Journal
import NodeSync.Proofs.Pass.Contention
import NodeSync.Proofs.Pass.Visit
import NodeSync.Proofs.Pass.Replicas
import NodeSync.Proofs.Store.Within
import NodeSync.Proofs.Pass.Forecast
import NodeSync.Proofs.Pass.Independence
import NodeSync.Proofs.Pass.Warnings
import NodeSync.Proofs.Pass.Cancellation
import NodeSync.Proofs.Pass.Frame
import NodeSync.Proofs.Pass.FailureAccounts
import NodeSync.Proofs.Pass.Propriety
import NodeSync.Proofs.Pass.Intrusion
import NodeSync.Proofs.Backoff
import NodeSync.Proofs.Requeue
import NodeSync.Proofs.Checks
import NodeSync.Proofs.Selector
import NodeSync.Proofs.Selection
import NodeSync.Proofs.Trigger
import NodeSync.Proofs.Store.History
import NodeSync.Proofs.Store.Refusals
import NodeSync.Proofs.Store.Failures
import NodeSync.Proofs.Store.Messages
import NodeSync.Proofs.Store.Agreement
import NodeSync.Proofs.Http.Target
import NodeSync.Proofs.Calendar
import NodeSync.Proofs.Timestamp
import NodeSync.Proofs.Metrics
import NodeSync.Proofs.Metrics.Exposition
import NodeSync.Proofs.Configuration
import NodeSync.Proofs.Configuration.Padding
import NodeSync.Proofs.Json.Faithful
import NodeSync.Proofs.Json.Printed
import NodeSync.Proofs.Json.Stable
import NodeSync.Proofs.Resource.Stable
import NodeSync.Proofs.Resource.StableNode
import NodeSync.Proofs.Resource.WasRead
import NodeSync.Proofs.Resource.Unmanaged
import NodeSync.Proofs.Json.Numeral
import NodeSync.Proofs.Json.Lexed
import NodeSync.Proofs.Json.Reread
