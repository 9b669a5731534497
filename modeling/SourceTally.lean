import SourceTally.Address
import SourceTally.Agent.Basic
import SourceTally.Agent.Error
import SourceTally.Agent.KernelVersion
import SourceTally.Agent.Process
import SourceTally.CommandLine.Command
import SourceTally.CommandLine.Process
import SourceTally.CommandLine.Run
import SourceTally.CommandLine.Switch
import SourceTally.Config.Basic
import SourceTally.Config.Decode
import SourceTally.Config.Json
import SourceTally.Data.Block
import SourceTally.Data.Json
import SourceTally.Data.Value
import SourceTally.Error
import SourceTally.Files
import SourceTally.Frame.Bounds
import SourceTally.Frame.Document
import SourceTally.Frame.Field
import SourceTally.Handler
import SourceTally.Kernel.Atomic
import SourceTally.Kernel.Host
import SourceTally.Kernel.Maps
import SourceTally.Kernel.Programs
import SourceTally.Ledger
import SourceTally.License
import SourceTally.Log
import SourceTally.Log.Filter
import SourceTally.Main
import SourceTally.Metrics
import SourceTally.Plane
import SourceTally.Program
import SourceTally.Replay
import SourceTally.Replay.Crew
import SourceTally.Report
import SourceTally.ResultSlots
import SourceTally.Table.Atomic
import SourceTally.Table.Basic
import SourceTally.Table.Model
import SourceTally.Table.Policy
import SourceTally.Tally
import SourceTally.Text.Blank
import SourceTally.Text.Column
import SourceTally.Text.Decimal
import SourceTally.Text.Hidden
import SourceTally.Text.Pieces
import SourceTally.Text.Quoted
import SourceTally.Text.Shortest
import SourceTally.Text.Terminal
import SourceTally.Text.Utf8
import SourceTally.Turns
import SourceTally.Verdict
import SourceTally.Yaml.Cursor
import SourceTally.Yaml.Document
import SourceTally.Yaml.Fault
import SourceTally.Yaml.Node
import SourceTally.Yaml.Scalar
import SourceTally.Yaml.Tag
import SourceTally.Yaml.Token
import SourceTally.Yaml.Tokens
import SourceTally.Proofs.FieldReading
import SourceTally.Proofs.PacketBounds
import SourceTally.Proofs.Search
import SourceTally.Proofs.TableOperations
import SourceTally.Proofs.TableRefinement
import SourceTally.Proofs.Turns
import SourceTally.Proofs.Interleaving
import SourceTally.Proofs.ConcurrentCounting
import SourceTally.Proofs.PlaneTable
import SourceTally.Proofs.SourceCounting
import SourceTally.Proofs.Uninterrupted
import SourceTally.Proofs.SnapshotOrder
import SourceTally.Proofs.KernelMap
import SourceTally.Proofs.KernelCounting
import SourceTally.Proofs.AgentSetup
import SourceTally.Proofs.KernelAgreement
import SourceTally.Proofs.SnapshotTotals
import SourceTally.Proofs.PlaneHistory
import SourceTally.Proofs.ReplayCrew
import SourceTally.Proofs.ReplayShares
import SourceTally.Proofs.ReplayAccounting
import SourceTally.Proofs.ReplayOrder
import SourceTally.Proofs.ResultHistory
import SourceTally.Proofs.PlaneSession
import SourceTally.Proofs.KernelCalls
import SourceTally.Proofs.AgentSteps
import SourceTally.Proofs.LicenseGate
import SourceTally.Proofs.SingleShot
import SourceTally.Proofs.AgentStartUp
import SourceTally.Proofs.TextLines
import SourceTally.Proofs.TextReading
import SourceTally.Proofs.KernelRelease
import SourceTally.Proofs.FrameDocument
import SourceTally.Proofs.FrameLayout
import SourceTally.Proofs.FrameJoining
import SourceTally.Proofs.SnapshotView
import SourceTally.Proofs.ConfigValues
import SourceTally.Proofs.ConfigEntries
import SourceTally.Proofs.KnownHosts
import SourceTally.Proofs.Gauges
import SourceTally.Proofs.MetricsRuns
import SourceTally.Proofs.Exposition
import SourceTally.Proofs.SignedGauges
