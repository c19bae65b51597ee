import HartDebug.Session.ProgramBuffer
import HartDebug.Session.RunControl

/-!
# Operations on sessions

The operations on sessions as data, so that sequences of them can be spoken about.

* `Operation` — one operation with its arguments;
* `Operation.perform` — the operation on a session over any transport.
-/

namespace HartDebug

/-- An operation on a session. -/
inductive Operation where
  | writeDmi (address : BusAddress) (data : Word)
  | readDmi (address : BusAddress)
  | expectDmi (address : BusAddress) (expected mask : Word) (failure : String)
  | resetStickyError
  | hardResetDtm
  | activateDm
  | deactivateDm
  | resetDm
  | resetTap
  | readIdcode
  | expectIdcode (expected : Word)
  | diagnose
  | writeRegister (name : String) (value : Value) (width : Option TransferWidth)
  | readRegister (name : String) (width : Option TransferWidth)
  | expectRegister (name : String) (expected : Value) (width : Option TransferWidth)
  | waitForCommand
  | clearCommandError
  | dumpRegisters (group : RegisterGroup) (width : Option TransferWidth)
  | discoverProgbufSize
  | halt
  | resume
  | step
  | resetHart
  | setHaltOnReset
  | clearHaltOnReset
  | hartStatus
  | loadProgram (program : List Word)
  | executeProgram
  | setWidth (width : TransferWidth)
  | connect
  | disconnect
  deriving DecidableEq, Repr

namespace Operation

/-- What an operation answers. -/
inductive Reply where
  | done
  | word (value : Word)
  | value (value : Value)
  | fault (fault : Option Fault)
  | dump (entries : List (String × Option Value))
  | capacity (words : Nat)
  | status (status : HartStatus)
  deriving DecidableEq, Repr

variable {τ : Type} [Transport τ]

/-- Do the operation. -/
def perform : Operation → Action DebugError (Session τ) Reply
  | .writeDmi address data => do Session.writeDmi address data; pure .done
  | .readDmi address => .word <$> Session.readDmi address
  | .expectDmi address expected mask failure => do
    Session.expectDmi address expected mask failure
    pure .done
  | .resetStickyError => do Session.resetStickyError; pure .done
  | .hardResetDtm => do Session.hardResetDtm; pure .done
  | .activateDm => do Session.activateDm; pure .done
  | .deactivateDm => do Session.deactivateDm; pure .done
  | .resetDm => do Session.resetDm; pure .done
  | .resetTap => do Session.resetTap; pure .done
  | .readIdcode => .word <$> Session.readIdcode
  | .expectIdcode expected => do Session.expectIdcode expected; pure .done
  | .diagnose => .fault <$> Session.diagnose
  | .writeRegister name value width => do Session.writeRegister name value width; pure .done
  | .readRegister name width => .value <$> Session.readRegister name width
  | .expectRegister name expected width => do
    Session.expectRegister name expected width
    pure .done
  | .waitForCommand => do Session.waitForCommand; pure .done
  | .clearCommandError => do Session.clearCommandError; pure .done
  | .dumpRegisters group width => .dump <$> Session.dumpRegisters group width
  | .discoverProgbufSize => .capacity <$> Session.discoverProgbufSize
  | .halt => do Session.halt; pure .done
  | .resume => do Session.resume; pure .done
  | .step => do Session.step; pure .done
  | .resetHart => do Session.resetHart; pure .done
  | .setHaltOnReset => do Session.setHaltOnReset; pure .done
  | .clearHaltOnReset => do Session.clearHaltOnReset; pure .done
  | .hartStatus => .status <$> Session.hartStatus
  | .loadProgram program => do Session.loadProgram program; pure .done
  | .executeProgram => do Session.executeProgram; pure .done
  | .setWidth width => do Session.setWidth width; pure .done
  | .connect => do Session.onTransport Bus.connect; pure .done
  | .disconnect => do Session.onTransport Bus.disconnect; pure .done

/-- Do operations one after another up to the first that fails, with what they answered. -/
def performAll : List Operation → Action DebugError (Session τ) (List Reply)
  | [] => pure []
  | op :: rest => do
    let reply ← op.perform
    let others ← performAll rest
    pure (reply :: others)

end Operation

end HartDebug
