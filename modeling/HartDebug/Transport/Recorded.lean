import HartDebug.Transport

/-!
# Buses with a record

A bus that keeps a record of every access made to it, in order, with what each was answered.

* `Access` — what was asked of the bus;
* `Entry` — an access with its answer;
* `Recorded` — a bus beside its record, itself a bus.
-/

namespace HartDebug

/-- An access to a bus. -/
inductive Access where
  | connect
  | disconnect
  | write (address : BusAddress) (data : Word)
  | read (address : BusAddress)
  | writeDtmcs (value : Word)
  | readDtmcs
  | readIdcode
  | resetTap
  deriving DecidableEq, Repr

/-- What an access was answered. -/
inductive Answer where
  | done
  | value (w : Word)
  | failed (error : DebugError)
  deriving DecidableEq, Repr

/-- An access with its answer. -/
structure Entry where
  access : Access
  answer : Answer
  deriving DecidableEq, Repr

/-- A bus beside the record of what was done to it. -/
structure Recorded (τ : Type) where
  bus : τ
  record : List Entry := []
  deriving Repr

namespace Recorded

variable {τ α : Type}

/-- Do an access and enter it into the record. -/
def enter (access : Access) (answer : α → Answer) (x : Action DebugError τ α) :
    Action DebugError (Recorded τ) α :=
  fun s =>
    let ran := x s.bus
    let answer := match ran.outcome with
      | .ok a => answer a
      | .error e => .failed e
    ⟨ran.outcome, ⟨ran.state, s.record ++ [⟨access, answer⟩]⟩, ran.said⟩

/-- Do an access that answers nothing and enter it into the record. -/
def enterDone (access : Access) (x : Action DebugError τ Unit) : Action DebugError (Recorded τ) Unit :=
  enter access (fun _ => .done) x

instance [Bus τ] : Bus (Recorded τ) where
  isLive s := Bus.isLive s.bus
  connect := enterDone .connect Bus.connect
  disconnect := enterDone .disconnect Bus.disconnect
  write address data := enterDone (.write address data) (Bus.write address data)
  read address := enter (.read address) .value (Bus.read address)
  writeDtmcs value := enterDone (.writeDtmcs value) (Bus.writeDtmcs value)
  readDtmcs := enter .readDtmcs .value Bus.readDtmcs
  readIdcode := enter .readIdcode .value Bus.readIdcode
  resetTap := enterDone .resetTap Bus.resetTap

instance [Bus τ] : Transport (Recorded τ) where

end Recorded

end HartDebug
