import HartDebug.Transport

/-!
# Calls on a transport

The accesses of a transport as data, so that sequences of them can be spoken about.

* `TransportCall` — one call with its arguments;
* `TransportCall.perform` — the call on any transport.
-/

namespace HartDebug

/-- A call on a transport. -/
inductive TransportCall where
  | connect
  | disconnect
  | write (address : BusAddress) (data : Word)
  | read (address : BusAddress)
  | expect (address : BusAddress) (expected mask : Word)
  | writeDtmcs (value : Word)
  | readDtmcs
  | readIdcode
  | expectIdcode (expected : Word)
  | resetTap
  | idle (cycles : Nat)
  | annotate (note : String)
  deriving DecidableEq, Repr

namespace TransportCall

/-- What a call answers. -/
inductive Answer where
  | done
  | word (value : Word)
  | check (outcome : Check)
  deriving DecidableEq, Repr

/-- Do the call. -/
def perform {τ : Type} [Transport τ] : TransportCall → Action DebugError τ Answer
  | .connect => do Bus.connect; pure .done
  | .disconnect => do Bus.disconnect; pure .done
  | .write address data => do Bus.write address data; pure .done
  | .read address => .word <$> Bus.read address
  | .expect address expected mask => .check <$> Transport.expect address expected mask
  | .writeDtmcs value => do Bus.writeDtmcs value; pure .done
  | .readDtmcs => .word <$> Bus.readDtmcs
  | .readIdcode => .word <$> Bus.readIdcode
  | .expectIdcode expected => .check <$> Transport.expectIdcode expected
  | .resetTap => do Bus.resetTap; pure .done
  | .idle cycles => do Transport.idle cycles; pure .done
  | .annotate note => do Transport.annotate note; pure .done

end TransportCall

end HartDebug
