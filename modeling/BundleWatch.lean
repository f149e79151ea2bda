import BundleWatch.Main
import BundleWatch.Files.Faulty
import BundleWatch.Files.Layout
import BundleWatch.Process.Machine
import BundleWatch.Reload.Connection
import BundleWatch.Proofs.Queue.History
import BundleWatch.Proofs.Queue.Ledger
import BundleWatch.Proofs.Engine.History
import BundleWatch.Proofs.Engine.Conservation
import BundleWatch.Proofs.Loop.Run
import BundleWatch.Proofs.Loop.WakeUp
import BundleWatch.Proofs.Loop.Delivery
import BundleWatch.Proofs.Engine.Setup
import BundleWatch.Proofs.Loop.Once
import BundleWatch.Proofs.Reload.History
import BundleWatch.Proofs.Reload.Broadcast
import BundleWatch.Proofs.Engine.Clients
import BundleWatch.Proofs.Engine.Announcement
import BundleWatch.Proofs.Output.Settling
import BundleWatch.Proofs.Output.Confinement
import BundleWatch.Proofs.Watch.Walk
import BundleWatch.Proofs.Config.Startup
import BundleWatch.Proofs.Files.Tree
import BundleWatch.Proofs.Watch.Agreement
import BundleWatch.Proofs.Loop.Burst
import BundleWatch.Proofs.Reload.Server
import BundleWatch.Proofs.Reload.Stage
import BundleWatch.Proofs.Reload.Protocol
import BundleWatch.Proofs.Engine.Batch
import BundleWatch.Proofs.Watch.RealPath
import BundleWatch.Proofs.Output.Exact
import BundleWatch.Proofs.Output.Gate
import BundleWatch.Proofs.Rule.Rendering
import BundleWatch.Proofs.Engine.Meaning
import BundleWatch.Proofs.Queue.Representation
import BundleWatch.Proofs.Files.Contents
import BundleWatch.Proofs.Watch.Termination
import BundleWatch.Proofs.Output.Coverage
import BundleWatch.Proofs.Reload.Framing
import BundleWatch.Proofs.Loop.Scheduling
import BundleWatch.Proofs.Watch.Registration
import BundleWatch.Proofs.Engine.Spelling
import BundleWatch.Proofs.Config.Acceptance
import BundleWatch.Proofs.Engine.Report
import BundleWatch.Proofs.Task.Copying
import BundleWatch.Proofs.Files.Writing
import BundleWatch.Proofs.Path.Relative
import BundleWatch.Proofs.Files.Canonical
import BundleWatch.Proofs.Files.Upkeep
import BundleWatch.Proofs.Output.Termination
