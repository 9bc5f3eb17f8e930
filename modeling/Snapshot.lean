import Snapshot.Bytes
import Snapshot.Scalar
import Snapshot.Utf8
import Snapshot.Fault
import Snapshot.Failure
import Snapshot.Event
import Snapshot.Limits
import Snapshot.VersionedField
import Snapshot.Allocator
import Snapshot.SmallText
import Snapshot.Layout
import Snapshot.Enumeration
import Snapshot.Stream.Storage
import Snapshot.Stream.Basic
import Snapshot.Stream.Memory
import Snapshot.Stream.Slice
import Snapshot.Stream.File
import Snapshot.Stream.Bounded
import Snapshot.Stream.Traced
import Snapshot.Stream.Device
import Snapshot.Stream.Medium
import Snapshot.Session.Basic
import Snapshot.Session.Chunks
import Snapshot.Session.Text
import Snapshot.Session.Marker
import Snapshot.Session.Value
import Snapshot.Routine
import Snapshot.Container
import Snapshot.Proofs.FailedSession
import Snapshot.Proofs.Moves
import Snapshot.Proofs.Course
import Snapshot.Proofs.Presence
import Snapshot.Proofs.Decoder
import Snapshot.Proofs.Grammar
import Snapshot.Proofs.Supply
import Snapshot.Proofs.Following
import Snapshot.Proofs.Restoration
import Snapshot.Proofs.Output
import Snapshot.Proofs.SavedForm
import Snapshot.Proofs.SavedMemory
import Snapshot.Proofs.StoredText
import Snapshot.Proofs.RoundTrip
import Snapshot.Proofs.VersionGates
import Snapshot.Proofs.Destinations
import Snapshot.Proofs.Coupling
import Snapshot.Proofs.Header
import Snapshot.Proofs.SideBySide
import Snapshot.Proofs.Truncation
import Snapshot.Proofs.ContainerRoundTrip
import Snapshot.Proofs.NormalForm
import Snapshot.Proofs.Reloading
import Snapshot.Proofs.Matching
import Snapshot.Proofs.StreamAgreement
import Snapshot.Proofs.DeviceCalls
import Snapshot.Proofs.Interruptions
import Snapshot.Proofs.FailurePoints
import Snapshot.Proofs.CleanSave
import Snapshot.Proofs.Chronicle
import Snapshot.Proofs.Undisturbed
import Snapshot.Proofs.MarkerCheck
import Snapshot.Proofs.Panics
import Snapshot.Proofs.TestedReading
import Snapshot.Proofs.TestedRuns
import Snapshot.Proofs.Availability
import Snapshot.Proofs.KeptText
import Snapshot.Proofs.LossyDecoding
import Snapshot.Proofs.WholeText
import Snapshot.Proofs.BulkTransfer
import Snapshot.Proofs.MemoryContents
import Snapshot.Proofs.ChunkedReading
import Snapshot.Proofs.RingLayout
import Snapshot.Proofs.ReadingOn
import Snapshot.Proofs.TextForms
