import HartDebug.Command
import HartDebug.Duration
import HartDebug.Text.Hex

/-!
# Errors

Why an operation failed.  Each error is a cause with the data that belongs to it; `DebugError.message`
is its wording, and `DebugError.source?` the cause underneath, where there is one.
-/

namespace HartDebug

/-- Why a byte stream, or a file, refused an access. -/
inductive StreamFault where
  /-- The other side has ended the stream. -/
  | ended
  /-- A write was accepted with none of its octets taken. -/
  | nothingTaken
  /-- No answer has come yet. -/
  | pending
  /-- The system reports a failure in its own words. -/
  | reported (text : String)
  deriving DecidableEq, Repr

def StreamFault.message : StreamFault → String
  | .ended => "connection closed by the adapter"
  | .nothingTaken => "failed to write whole buffer"
  | .pending => "no answer has come yet"
  | .reported text => text

/-- What was being attempted when a stream or a file failed. -/
inductive Attempt where
  | send
  | receive
  | connect (endpoint : String)
  | writeVectors (path : String)
  deriving DecidableEq, Repr

def Attempt.text : Attempt → String
  | .send => "send a command"
  | .receive => "read a response"
  | .connect endpoint => "connect to " ++ endpoint
  | .writeVectors path => "write vectors to " ++ path

/-- A way in which the target or the adapter broke the protocol. -/
inductive Violation where
  /-- A register of the debug module does not hold what it has to. -/
  | mismatch (failure : String) (address : BusAddress) (actual expected mask : Word)
  /-- An error of the debug bus is still latched after it was cleared. -/
  | busError (cleared : String) (dmistat : Nat)
  /-- The test access port identifies itself as something else. -/
  | idcode (actual expected : Word)
  /-- An error of an abstract command is still latched after it was cleared. -/
  | commandError (error : CommandError)
  /-- A listing of the scan chain has no row. -/
  | noTaps (listing : String)
  /-- A row of the scan chain has no name. -/
  | noTapName (row : String)
  /-- The description of the hart does not give the width of its registers. -/
  | noXlen (description : String)
  /-- A reply is not a number in hexadecimal. -/
  | notHexadecimal (reply : String)
  deriving DecidableEq, Repr

def Violation.message : Violation → String
  | .mismatch failure address actual expected mask =>
    s!"{failure}: register {Hex.padded 2 address.toNat} read {Hex.padded 8 actual.toNat}, " ++
    s!"expected {Hex.padded 8 expected.toNat} under mask {Hex.padded 8 mask.toNat}"
  | .busError cleared dmistat =>
    s!"DMI status still reports an error after {cleared} ({Fault.text (.busStatus dmistat)})"
  | .idcode actual expected =>
    s!"IDCODE {Hex.padded 8 actual.toNat} does not match the expected {Hex.padded 8 expected.toNat}"
  | .commandError error =>
    s!"abstract command error '{error.text}' is still set after clearing it"
  | .noTaps listing => "scan chain listing names no taps:\n" ++ listing
  | .noTapName row => s!"could not find a tap name in '{row}'"
  | .noXlen description => "'riscv info' did not report hart.xlen:\n" ++ description
  | .notHexadecimal reply => s!"expected a hexadecimal value, got '{reply}'"

/-- What cannot be read back while vectors are being recorded. -/
inductive OfflineRead where
  | hartRegisters
  | busRegisters
  | dtmcs
  | idcode
  deriving DecidableEq, Repr

def OfflineRead.text : OfflineRead → String
  | .hartRegisters => "read hart registers back while generating vectors"
  | .busRegisters => "read DMI registers back while generating vectors"
  | .dtmcs => "read dtmcs back while generating vectors"
  | .idcode => "read IDCODE back while generating vectors"

/-- Why an operation of the debugger failed. -/
inductive DebugError where
  /-- The connection to the adapter, or the file for the vectors, failed. -/
  | transport (attempt : Attempt) (fault : StreamFault)
  /-- The adapter answered that it failed. -/
  | adapterFailure (reply : String)
  | notConnected
  | protocol (violation : Violation)
  /-- An abstract command finished with an error. -/
  | command (error : CommandError)
  /-- An abstract command did not finish in time. -/
  | busyTimeout (timeout : Duration)
  | valueOutOfRange (value : Value) (bits : Nat)
  | unknownRegister (name : String)
  | invalidWidth (bits : Nat)
  | programTooLarge (length capacity : Nat)
  | unsupported (what : OfflineRead)
  deriving DecidableEq, Repr

namespace DebugError

def message : DebugError → String
  | .transport attempt _ => "Debug adapter connection failed when attempting to " ++ attempt.text
  | .adapterFailure reply => "Debug adapter reported a failure: " ++ reply
  | .notConnected => "Debug adapter connection is not open"
  | .protocol violation => "Protocol assertion failed: " ++ violation.message
  | .command error => s!"Abstract command failed with error '{error.text}'"
  | .busyTimeout timeout => "Abstract command was still busy after " ++ timeout.text
  | .valueOutOfRange value bits => s!"Value {Hex.text value.toNat} does not fit in {bits} bits"
  | .unknownRegister name =>
    s!"Register '{name}' is not known by either its canonical or ABI name"
  | .invalidWidth bits => s!"Transfer width of {bits} bits is not one of 32, 64 or 128"
  | .programTooLarge length capacity =>
    s!"Program of {length} instructions does not fit in the {capacity} word program buffer"
  | .unsupported what => "The active transport cannot " ++ what.text

/-- The fault underneath an error. -/
def source? : DebugError → Option StreamFault
  | .transport _ fault => some fault
  | _ => none

end DebugError

/-- A transfer width given as a number of bits. -/
def TransferWidth.ofBits (bits : Nat) : Except DebugError TransferWidth :=
  match ofBits? bits with
  | some w => .ok w
  | none => .error (.invalidWidth bits)

end HartDebug
