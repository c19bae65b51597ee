import HartDebug.Action
import HartDebug.Error

/-!
# Transports

What the debugger needs from whatever leads to a debug module: access to its bus, to the register of the
debug transport and to the test access port.  Everything above is written once, for every transport.

* `Bus` — the accesses themselves;
* `Transport` — a bus with the accesses that a transport may do in its own way: by default an
  expectation is a read that is compared, idling does nothing, and a note goes to the log;
* `ReadsBack` — a transport that leaves expectations at their default.
-/

namespace HartDebug

/-- What became of an expectation. -/
inductive Check where
  /-- The value was read and is as expected. -/
  | passed
  /-- The value was read and is another one. -/
  | failed (actual : Word)
  /-- The comparison is left to whoever replays the recorded vectors. -/
  | deferred
  deriving DecidableEq, Repr

/-- Put an error into the log and fail with it. -/
def failLogged {σ α : Type} (source : Source) (e : DebugError) : Action DebugError σ α := do
  Action.log .error source e.message
  throw e

theorem exec_failLogged {σ α : Type} (source : Source) (e : DebugError) (s : σ) :
    (failLogged source e : Action DebugError σ α).exec s = (.error e, s) := by
  rw [failLogged, Action.exec_bind_ok (Action.exec_log _ _ _ s), Action.exec_throw]

/-- Access to a debug module, its transport and its test access port. -/
class Bus (τ : Type) where
  /-- Whether values can be read back now. -/
  isLive : τ → Bool
  connect : Action DebugError τ Unit
  disconnect : Action DebugError τ Unit
  write : BusAddress → Word → Action DebugError τ Unit
  read : BusAddress → Action DebugError τ Word
  writeDtmcs : Word → Action DebugError τ Unit
  readDtmcs : Action DebugError τ Word
  readIdcode : Action DebugError τ Word
  /-- Take the test access port through its reset and leave it idle. -/
  resetTap : Action DebugError τ Unit

namespace Bus

variable {τ : Type} [Bus τ]

/-- Read a register and compare the bits under `mask`. -/
def readAndCompare (address : BusAddress) (expected mask : Word) : Action DebugError τ Check := do
  let actual ← read address
  if actual &&& mask = expected &&& mask then
    pure .passed
  else
    pure (.failed actual)

/-- Read the identification of the port and compare it. -/
def readAndCompareIdcode (expected : Word) : Action DebugError τ Check := do
  let actual ← readIdcode
  if actual = expected then
    pure .passed
  else
    pure (.failed actual)

end Bus

/-- A bus, with the accesses that a transport may do in its own way. -/
class Transport (τ : Type) extends Bus τ where
  /-- Compare the bits under a mask of the register at an address. -/
  expect : BusAddress → Word → Word → Action DebugError τ Check := Bus.readAndCompare
  expectIdcode : Word → Action DebugError τ Check := Bus.readAndCompareIdcode
  /-- Let the target run for a number of clock cycles. -/
  idle : Nat → Action DebugError τ Unit := fun _ => pure ()
  /-- Leave a note for people among the accesses. -/
  annotate : String → Action DebugError τ Unit := Action.log .debug .connection

/-- A transport whose expectations are reads that are compared. -/
class ReadsBack (τ : Type) [Transport τ] : Prop where
  live : ∀ t : τ, Bus.isLive t = true
  expect_eq : (Transport.expect : BusAddress → Word → Word → Action DebugError τ Check) =
    Bus.readAndCompare
  expectIdcode_eq : (Transport.expectIdcode : Word → Action DebugError τ Check) =
    Bus.readAndCompareIdcode

end HartDebug
