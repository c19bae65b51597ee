import HartDebug.Clock
import HartDebug.Config
import HartDebug.ScanChain
import HartDebug.Transport

/-!
# Sessions

A session is a connected transport together with what has been settled about the target so far.  The
operations on sessions are written for every transport.

* `Session` — the state;
* `Session.fresh`, `Session.start` — a session over a transport, and its beginning;
* `Session.close` — its end;
* `Session.onTransport` — an access to the transport as an action on the session;
* `Session.adoptXlen` — take over the register width that the target reports.
-/

namespace HartDebug

/-- A connected transport and what has been settled about the target behind it. -/
structure Session (τ : Type) where
  transport : τ
  config : SessionConfig
  /-- The port that the target was found behind. -/
  tap : Option Tap := none
  /-- The register width that the target reports. -/
  xlen : Option Nat := none
  /-- The width of register accesses that do not choose one. -/
  width : TransferWidth
  /-- The size of the program buffer in words, as far as it is known. -/
  progbufCapacity : Option Nat
  /-- The value of `dcsr` after the last step, for transports that cannot read it back. -/
  dcsrShadow : Word := 0
  timer : Timer

namespace Session

variable {τ α : Type}

/-- A session over a transport, before its beginning. -/
def fresh (transport : τ) (config : SessionConfig) (timer : Timer) : Session τ where
  transport := transport
  config := config
  width := config.width.getD .w64
  progbufCapacity := config.progbufCapacity
  timer := timer

/-- The session over another state of its transport. -/
def withTransport (s : Session τ) (t : τ) : Session τ :=
  { s with transport := t }

/-- Do something on the transport of a session. -/
def onTransport (x : Action DebugError τ α) : Action DebugError (Session τ) α :=
  x.onPart (·.transport) fun t s => s.withTransport t

@[simp] theorem exec_onTransport (x : Action DebugError τ α) (s : Session τ) :
    (onTransport x).exec s = ((x.exec s.transport).1, s.withTransport (x.exec s.transport).2) := rfl

variable [Transport τ]

/-- Begin a fresh session by connecting its transport. -/
def start : Action DebugError (Session τ) Unit := do
  onTransport Bus.connect
  Action.log .debug .session s!"Session opened with a {(← get).width.bits} bit transfer width"

/-- End the session. -/
def close : Action DebugError (Session τ) Unit :=
  onTransport Bus.disconnect

/-- The session's transport can read values back. -/
def isLive (s : Session τ) : Bool :=
  Bus.isLive s.transport

/-- Choose the width of register accesses that do not choose one themselves. -/
def setWidth (width : TransferWidth) : Action DebugError (Session τ) Unit :=
  modify fun s => { s with width := width }

/-- Take over the register width that the target reports, as the width of register accesses unless one
was chosen in the settings. -/
def adoptXlen (xlen : Nat) : Action DebugError (Session τ) Unit := do
  modify fun s => { s with xlen := some xlen }
  if (← get).config.width.isNone then
    let width ← Action.ofExcept (TransferWidth.ofBits xlen)
    setWidth width
    Action.log .debug .session s!"Using XLEN of {xlen} bits as the transfer width"

end Session

end HartDebug
