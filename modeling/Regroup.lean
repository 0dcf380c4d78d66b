import Regroup.CommandLine
import Regroup.Daemon.Program
import Regroup.Engine
import Regroup.Log.Filter
import Regroup.Log.Sink
import Regroup.Main
import Regroup.Netlink.Receive
import Regroup.Pipeline
import Regroup.Proofs.Credential.Completion
import Regroup.Proofs.Credential.DecidingLine
import Regroup.Proofs.Daemon.Run
import Regroup.Proofs.Daemon.Tasks
import Regroup.Proofs.Engine.Confinement
import Regroup.Proofs.Engine.Grounded
import Regroup.Proofs.Engine.PartialMove
import Regroup.Proofs.Engine.TextMachine
import Regroup.Proofs.Engine.Writes
import Regroup.Proofs.FileTree
import Regroup.Proofs.Netlink.Batch
import Regroup.Proofs.Netlink.Record
import Regroup.Proofs.Netlink.RoundTrip
import Regroup.Proofs.Pipeline.Events
import Regroup.Proofs.Pipeline.Requests
import Regroup.Proofs.Pipeline.Watched
import Regroup.Proofs.Result
import Regroup.Proofs.Rule.Lines
import Regroup.Proofs.Rule.Selection
import Regroup.Recorder
import Regroup.Proofs.Daemon.Watched
import Regroup.Proofs.Netlink.Offsets
import Regroup.Proofs.Netlink.Concatenation
import Regroup.Proofs.Pipeline.Balance
import Regroup.Proofs.Daemon.Journal
import Regroup.Proofs.Daemon.Turns
import Regroup.Proofs.Daemon.StartUp
import Regroup.Proofs.Daemon.Policy
import Regroup.Proofs.Engine.Lifecycle
import Regroup.Proofs.Daemon.ReceiveBuffer
import Regroup.Proofs.Daemon.Order
import Regroup.Proofs.Daemon.Outcome
import Regroup.Proofs.Daemon.Stages
import Regroup.Proofs.WorkingDirectory
import Regroup.Proofs.Daemon.Step
import Regroup.Proofs.Daemon.Background
import Regroup.Proofs.Netlink.Calls
import Regroup.Proofs.Netlink.Accounting
import Regroup.Proofs.Netlink.Relevance
import Regroup.Proofs.Log.SharedSinks
import Regroup.Proofs.Daemon.Milestones
import Regroup.Proofs.Daemon.Subscription
import Regroup.Proofs.Netlink.Cursor
import Regroup.Proofs.Netlink.Bounds
import Regroup.Proofs.Engine.Destinations
import Regroup.Proofs.Text.Lines
import Regroup.Proofs.Rule.Listing
import Regroup.Proofs.Rule.Prefixes
import Regroup.Proofs.Rule.Layout
import Regroup.Proofs.Rule.Composition
import Regroup.Proofs.Config.Sections
import Regroup.Proofs.Config.Precedence
import Regroup.Proofs.Daemon.Reloading
import Regroup.Proofs.Pipeline.Chronicle
import Regroup.Proofs.MountTable.Escapes
import Regroup.Proofs.Rule.Shape
import Regroup.Proofs.Netlink.Codec
import Regroup.Proofs.Daemon.Detachment
