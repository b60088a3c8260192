import NorStore.Outcome
import NorStore.Word
import NorStore.Bytes
import NorStore.Segment
import NorStore.Text.Number
import NorStore.Text.Blank
import NorStore.Text.Whole
import NorStore.Text.Quoted
import NorStore.Flash.Geometry
import NorStore.Flash.Error
import NorStore.Flash.Cells
import NorStore.Flash.Device
import NorStore.Flash.Access
import NorStore.Flash.Memory
import NorStore.Flash.Image
import NorStore.Flash.Faulty
import NorStore.Flash.Glitchy
import NorStore.Flash.Handles
import NorStore.Flash.Probe
import NorStore.Record.Ledger
import NorStore.Error
import NorStore.Loss
import NorStore.Record.Header
import NorStore.Record.Pattern
import NorStore.MemoryMap
import NorStore.Codec
import NorStore.Driver.Basic
import NorStore.Driver.Access
import NorStore.Driver.Transaction
import NorStore.Driver.Inspection
import NorStore.Store.Config
import NorStore.Store.Record
import NorStore.Store.Basic
import NorStore.Store.Commit
import NorStore.Store.Restore
import NorStore.Bench.Fixture
import NorStore.Bench.PowerCut
import NorStore.Bench.RoundTrip
import NorStore.Text.Json
import NorStore.Text.Hex
import NorStore.Host.Entry
import NorStore.Host.Tree
import NorStore.Command.Value
import NorStore.Command.Settings
import NorStore.Command.Report
import NorStore.Command.Run
import NorStore.Command.Line
import NorStore.Command.Session
import NorStore.Main
import NorStore.Proofs.Action
import NorStore.Proofs.Flash.Cells
import NorStore.Proofs.Flash.Locality
import NorStore.Proofs.Flash.NorDevice
import NorStore.Proofs.Flash.Restart
import NorStore.Proofs.Layout
import NorStore.Proofs.Record.Ledger
import NorStore.Proofs.Record.Image
import NorStore.Proofs.Driver.Mapping
import NorStore.Proofs.Driver.Transfer
import NorStore.Proofs.Driver.Sequential
import NorStore.Proofs.Driver.Transaction
import NorStore.Proofs.Driver.Placed
import NorStore.Proofs.Driver.Content
import NorStore.Proofs.Driver.Reading
import NorStore.Proofs.Store.Access
import NorStore.Proofs.Store.Settled
import NorStore.Proofs.Store.Restoring
import NorStore.Proofs.Store.Storing
import NorStore.Proofs.Store.Erasing
import NorStore.Proofs.Store.Reboot
import NorStore.Proofs.Store.Atomicity
import NorStore.Proofs.Store.Pass
import NorStore.Proofs.Store.Interruption
import NorStore.Proofs.Store.Past
import NorStore.Proofs.Store.Lifetime
import NorStore.Proofs.Driver.Effect
import NorStore.Proofs.Flash.Wear
import NorStore.Proofs.Driver.Wear
import NorStore.Proofs.Store.Imprint
import NorStore.Proofs.Driver.Inspecting
import NorStore.Proofs.Store.Inspecting
import NorStore.Proofs.Driver.Confinement
import NorStore.Proofs.Store.Isolation
import NorStore.Proofs.Store.Order
import NorStore.Proofs.Flash.Power
import NorStore.Proofs.Driver.Power
import NorStore.Proofs.Store.Power
import NorStore.Proofs.Bench.PowerCut
import NorStore.Proofs.Driver.Commitment
import NorStore.Proofs.Driver.Chronicle
import NorStore.Proofs.Store.Agenda
import NorStore.Proofs.Store.Schedule
import NorStore.Proofs.Store.Upkeep
import NorStore.Proofs.Store.Boots
import NorStore.Proofs.Tiling
import NorStore.Proofs.Assignment
import NorStore.Proofs.Driver.Usage
import NorStore.Proofs.Driver.Settlement
import NorStore.Proofs.Flash.Watched
import NorStore.Proofs.Driver.Conduct
import NorStore.Proofs.Driver.Mirror
import NorStore.Proofs.Driver.Lawful
import NorStore.Proofs.Store.Delay
import NorStore.Proofs.Store.Forcing
import NorStore.Proofs.Store.Pending
import NorStore.Proofs.Store.Impaired
import NorStore.Proofs.Driver.Chunks
import NorStore.Proofs.Flash.FileDevice
import NorStore.Proofs.Flash.Interchange
import NorStore.Proofs.Store.Accounts
import NorStore.Proofs.Driver.Overflow
import NorStore.Proofs.Driver.Glancing
import NorStore.Proofs.Command.Making
import NorStore.Proofs.Command.Verification
import NorStore.Proofs.Command.Verdict
import NorStore.Proofs.Store.Alteration
import NorStore.Proofs.Store.Books
import NorStore.Proofs.Store.Describing
import NorStore.Proofs.Driver.Runs
import NorStore.Proofs.Driver.Pieces
import NorStore.Proofs.Driver.Retrying
import NorStore.Proofs.Flash.History
import NorStore.Proofs.Record.Clearing
import NorStore.Proofs.Driver.Events
import NorStore.Proofs.Text.Spelling
import NorStore.Proofs.Command.Value
import NorStore.Proofs.Flash.Meter
import NorStore.Proofs.Flash.Metered
import NorStore.Proofs.Flash.Threshold
