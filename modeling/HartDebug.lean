import HartDebug.Main
import HartDebug.Proofs.Bits.Assignments
import HartDebug.Proofs.CommandLine.HaltOnReset
import HartDebug.Proofs.CommandLine.LastFailure
import HartDebug.Proofs.CommandLine.TearDown
import HartDebug.Proofs.Session.Acknowledgement
import HartDebug.Proofs.Session.Adoption
import HartDebug.Proofs.Session.Comparison
import HartDebug.Proofs.Session.Footprint
import HartDebug.Proofs.Session.GroupReads
import HartDebug.Proofs.Session.Overlap
import HartDebug.Proofs.Session.ProgramLoading
import HartDebug.Proofs.Session.Recorded
import HartDebug.Proofs.Session.RegisterDump
import HartDebug.Proofs.Session.RegisterFile
import HartDebug.Proofs.Session.Stepping
import HartDebug.Proofs.Session.StickyError
import HartDebug.Proofs.Session.Waiting
import HartDebug.Proofs.Session.WriteOrder
import HartDebug.Proofs.Triples
import HartDebug.Proofs.Vector.Atomicity
import HartDebug.Proofs.Vector.DcsrShadow
import HartDebug.Proofs.Vector.Interpretation
import HartDebug.Proofs.Vector.Notes
import HartDebug.Proofs.Vector.Replay
import HartDebug.Proofs.Wire.FailureReports
import HartDebug.Proofs.Wire.Interruption
import HartDebug.Proofs.Wire.Transparency
import HartDebug.Session.Operation
import HartDebug.Target.Scripted
import HartDebug.Target.Simulated
import HartDebug.Transport.Call
import HartDebug.Transport.Recorded
import HartDebug.Transport.Traced
import HartDebug.Proofs.Wire.Doubling
import HartDebug.Proofs.Wire.Interspersed
import HartDebug.Proofs.CommandLine.WrittenNumber
import HartDebug.Proofs.Wire.Quoting
import HartDebug.Proofs.Wire.Sending
import HartDebug.Proofs.Text.Characters
import HartDebug.Proofs.Wire.Values
import HartDebug.Proofs.Text.Lines
import HartDebug.Proofs.Text.Patterns
import HartDebug.Proofs.Session.ScanListing
import HartDebug.Proofs.Session.Diagnosis
import HartDebug.Proofs.Session.Refusal
import HartDebug.Proofs.Wire.Silence
import HartDebug.Proofs.Wire.Spoken
