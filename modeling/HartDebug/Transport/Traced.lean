import HartDebug.Transport.Call

/-!
# Transports under trace

A transport of any kind with a list of the calls that are made to it, in order.  What an expectation or a
pause comes down to is left to the transport itself, and a call is listed also if it fails.

* `Traced` — a transport beside the calls made to it, itself a transport;
* `Traced.call` — one call, passed on and listed.
-/

namespace HartDebug

/-- A transport beside the calls made to it. -/
structure Traced (τ : Type) where
  transport : τ
  calls : List TransportCall := []
  deriving Repr

namespace Traced

variable {τ α : Type}

/-- Pass a call on and list it. -/
def call (c : TransportCall) (x : Action DebugError τ α) : Action DebugError (Traced τ) α :=
  fun s =>
    let ran := x s.transport
    ⟨ran.outcome, ⟨ran.state, s.calls ++ [c]⟩, ran.said⟩

instance [Transport τ] : Transport (Traced τ) where
  isLive s := Bus.isLive s.transport
  connect := call .connect Bus.connect
  disconnect := call .disconnect Bus.disconnect
  write address data := call (.write address data) (Bus.write address data)
  read address := call (.read address) (Bus.read address)
  writeDtmcs value := call (.writeDtmcs value) (Bus.writeDtmcs value)
  readDtmcs := call .readDtmcs Bus.readDtmcs
  readIdcode := call .readIdcode Bus.readIdcode
  resetTap := call .resetTap Bus.resetTap
  expect address expected mask :=
    call (.expect address expected mask) (Transport.expect address expected mask)
  expectIdcode expected := call (.expectIdcode expected) (Transport.expectIdcode expected)
  idle cycles := call (.idle cycles) (Transport.idle cycles)
  annotate note := call (.annotate note) (Transport.annotate note)

end Traced

end HartDebug
