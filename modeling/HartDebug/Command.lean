import HartDebug.DebugModule
import HartDebug.TransferWidth

/-!
# Abstract commands

The word that asks the debug module to move a register or to run the program buffer, the errors with
which it may answer, and what can be told from its status words.

* `AccessRegister.move`, `AccessRegister.execute` — the two command words in use;
* `CommandError.ofAbstractcs` — the error latched in an `abstractcs` value;
* `HartStatus.ofDmstatus` — the run state in a `dmstatus` value;
* `Fault` — something that a layer between here and the hart reports as wrong.
-/

namespace HartDebug

namespace AccessRegister

/-- The word that moves a register between the hart and the operand registers. -/
def move (number : RegisterNumber) (width : TransferWidth) (isWrite : Bool) : Word :=
  regno.set number.toNat
    (write.setFlag isWrite (aarsize.set width.sizeCode (transfer.setFlag true 0)))

/-- The word that only runs the program buffer. -/
def execute : Word :=
  postexec.setFlag true 0

end AccessRegister

/-- What became of the last abstract command. -/
inductive CommandError where
  | none
  | busy
  | notSupported
  | exception
  | haltResume
  | bus
  | reserved
  | other
  deriving DecidableEq, Repr

namespace CommandError

/-- The error with a given number. -/
def ofCode : Nat → CommandError
  | 0 => .none
  | 1 => .busy
  | 2 => .notSupported
  | 3 => .exception
  | 4 => .haltResume
  | 5 => .bus
  | 6 => .reserved
  | _ => .other

/-- The error latched in a value of `abstractcs`. -/
def ofAbstractcs (w : Word) : CommandError :=
  ofCode (Abstractcs.cmderr.get w)

def text : CommandError → String
  | .none => "none"
  | .busy => "busy"
  | .notSupported => "not supported"
  | .exception => "exception"
  | .haltResume => "halt/resume"
  | .bus => "bus"
  | .reserved => "reserved"
  | .other => "other"

end CommandError

/-- The run state of the selected hart at one moment. -/
structure HartStatus where
  running : Bool
  halted : Bool
  resumeAcknowledged : Bool
  haveReset : Bool
  deriving DecidableEq, Repr

/-- The run state that a value of `dmstatus` reports. -/
def HartStatus.ofDmstatus (w : Word) : HartStatus where
  running := Dmstatus.anyrunning.isSet w
  halted := Dmstatus.anyhalted.isSet w
  resumeAcknowledged := Dmstatus.anyresumeack.isSet w
  haveReset := Dmstatus.anyhavereset.isSet w

/-- Something that one of the layers between here and the hart reports as wrong. -/
inductive Fault where
  /-- The debug transport reports an error. -/
  | transport (errinfo : Nat)
  /-- An error of the debug bus is latched and needs clearing. -/
  | busStatus (dmistat : Nat)
  /-- The debug module is switched off. -/
  | inactive
  /-- The error of an abstract command is latched. -/
  | command (error : CommandError)
  deriving DecidableEq, Repr

def Fault.text : Fault → String
  | .transport errinfo =>
    "DTM error: " ++ match errinfo with
      | 0 => "not implemented"
      | 1 => "dmi error"
      | 2 => "communication error"
      | 3 => "device error"
      | _ => "unknown"
  | .busStatus dmistat =>
    "DMI status error: " ++ match dmistat with
      | 0 => "success"
      | 1 => "reserved"
      | 2 => "failed"
      | _ => "busy"
  | .inactive => "DMControl error: debug module is not active"
  | .command error => "Abstract command error: " ++ error.text

end HartDebug
