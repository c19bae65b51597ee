import HartDebug.Register.Standard
import HartDebug.Session.AbstractCommand

/-!
# Hart registers

Reading, writing and checking the registers of a halted hart.  A value crosses the bus in the operand
registers, a word in each, and an abstract command moves it between these and the hart.

* `locate` — a register by name, with the width of the access and how many of its bits count;
* `writeRegister`, `readRegister`, `expectRegister` — one register;
* `dumpRegisters` — a group of registers, as far as the hart implements them.
-/

namespace HartDebug.Session

variable {τ : Type} [Transport τ]

/-- A register, the width of an access to it, and the number of bits that the access carries. -/
structure Place where
  register : Register
  width : TransferWidth
  bits : Nat
  deriving DecidableEq, Repr

/-- Where an access to a register goes; without a width of its own it has that of the session. -/
def locate (s : Session τ) (name : String) (width : Option TransferWidth) :
    Except DebugError Place := do
  let register ← Catalog.standard.resolve name
  let width := width.getD s.width
  pure ⟨register, width, (register.widthOverride.getD width.bits).min width.bits⟩

/-- Where an access goes that carries a value: the value has to fit. -/
def locateFor (name : String) (value : Value) (width : Option TransferWidth) :
    Action DebugError (Session τ) Place := do
  let place ← Action.ofExcept ((← get).locate name width)
  if value.Fits place.bits then
    pure place
  else
    failLogged .abstractCommand (.valueOutOfRange value place.bits)

/-- Ask for a register to be moved between the hart and the operand registers, and wait for it. -/
def moveRegister (place : Place) (isWrite : Bool) : Action DebugError (Session τ) Unit := do
  writeDmi .command (AccessRegister.move place.register.number place.width isWrite)
  waitForCommand

def writeRegister (name : String) (value : Value) (width : Option TransferWidth) :
    Action DebugError (Session τ) Unit := do
  let place ← locateFor name value width
  Action.log .debug .abstractCommand
    s!"Writing {Hex.text value.toNat} to {place.register.name} ({place.width.bits} bit transfer)"
  (List.range place.width.slots).forM fun slot => writeDmi (.data slot) (value.word slot)
  moveRegister place true

def readRegister (name : String) (width : Option TransferWidth) :
    Action DebugError (Session τ) Value := do
  let place ← Action.ofExcept ((← get).locate name width)
  if (← get).isLive then
    moveRegister place false
    let words ← (List.range place.width.slots).mapM fun slot => readDmi (.data slot)
    let value := Value.ofWords words &&& Value.lowMask place.bits
    Action.log .debug .abstractCommand
      s!"Read {Hex.text value.toNat} from {place.register.name} ({place.width.bits} bit transfer)"
    pure value
  else
    throw (.unsupported .hartRegisters)

/-- Require a register to hold a value. -/
def expectRegister (name : String) (expected : Value) (width : Option TransferWidth) :
    Action DebugError (Session τ) Unit := do
  let place ← locateFor name expected width
  moveRegister place false
  let failure := s!"{place.register.name} does not hold {Hex.text expected.toNat}"
  (List.range place.width.slots).forM fun slot =>
    expectDmi (.data slot) (expected.word slot) ((Value.lowMask place.bits).word slot) failure

/-- Read registers one after another.  The first that raises an exception ends what the hart implements:
the error is cleared, and that register and those after it have no value. -/
def dumpNames (group : RegisterGroup) (width : Option TransferWidth) :
    List String → Action DebugError (Session τ) (List (String × Option Value))
  | [] => pure []
  | name :: rest => do
    match ← Action.attempt (readRegister name width) with
    | .ok value =>
      let others ← dumpNames group width rest
      pure ((name, some value) :: others)
    | .error (.command .exception) =>
      Action.log .warn .abstractCommand
        s!"{name} is not implemented, skipping the rest of the {group.text} registers"
      clearCommandError
      pure ((name :: rest).map fun n => (n, none))
    | .error e => throw e

/-- Read every register of a group. -/
def dumpRegisters (group : RegisterGroup) (width : Option TransferWidth) :
    Action DebugError (Session τ) (List (String × Option Value)) :=
  dumpNames group width group.members

end HartDebug.Session
