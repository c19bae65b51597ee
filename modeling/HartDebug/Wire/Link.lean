import HartDebug.Config
import HartDebug.DebugModule
import HartDebug.Text.Hex
import HartDebug.Wire.Connection

/-!
# Links to an adapter

The connection to an adapter as it comes and goes: dialled when it is needed, hung up in the end, and in
between the place where text is exchanged.  Connections that were hung up are kept for the record.

* `Link.use` — something on the open connection;
* `Link.dialUnlessOpen`, `Link.hangUp` — open and close it;
* `Instruction.selectCommand`, `Instruction.shiftCommand` — the two commands of a raw scan.
-/

namespace HartDebug

/-- A link to an adapter at an endpoint. -/
structure Link (σ : Type) where
  endpoint : Endpoint
  /-- What becomes of an attempt to reach an endpoint. -/
  dial : Endpoint → Except StreamFault σ
  connection : Option (Connection σ) := none
  /-- The connections that were hung up, oldest first. -/
  closed : List (Connection σ) := []
  /-- The port that raw scans are directed at. -/
  tapName : String

namespace Link

variable {σ α : Type}

/-- Everything that the adapter has taken, over all connections. -/
def sent (l : Link σ) : List Byte :=
  (l.closed ++ l.connection.toList).flatMap (·.sent)

/-- Do something on the open connection. -/
def use (x : Action DebugError (Connection σ) α) : Action DebugError (Link σ) α := fun l =>
  match l.connection with
  | none => ⟨.error .notConnected, l, []⟩
  | some connection =>
    let ran := x connection
    ⟨ran.outcome, { l with connection := some ran.state }, ran.said⟩

theorem exec_use {l : Link σ} {connection : Connection σ} (h : l.connection = some connection)
    (x : Action DebugError (Connection σ) α) :
    (use x).exec l = ((x.exec connection).1, { l with connection := some (x.exec connection).2 }) := by
  unfold use Action.exec Action.run
  dsimp only
  rw [h]

/-- Open a connection, unless there is one. -/
def dialUnlessOpen (source : Source) (service : String) : Action DebugError (Link σ) Unit := do
  let l ← get
  if l.connection.isNone then
    Action.log .debug source s!"Connecting to debug adapter {service} at {l.endpoint.text}"
    match l.dial l.endpoint with
    | .error fault => throw (.transport (.connect l.endpoint.text) fault)
    | .ok stream => set { l with connection := some { stream := stream } }

variable [ByteStream σ]

/-- Send a farewell and close the connection, also when the farewell cannot be sent. -/
def hangUp (farewell : List Byte) : Action DebugError (Link σ) Unit := do
  if (← get).connection.isSome then
    let outcome ← Action.attempt (use (Connection.send farewell))
    modify fun l => { l with connection := none, closed := l.closed ++ l.connection.toList }
    Action.ofExcept outcome

end Link

namespace Instruction

/-- The command that selects the instruction at a port. -/
def selectCommand (tap : String) (i : Instruction) : String :=
  s!"irscan {tap} {Hex.text i.opcode.toNat}"

/-- The command that shifts a word through the data register of the instruction, which is selected. -/
def shiftCommand (tap : String) (i : Instruction) (value : Word) : String :=
  s!"drscan {tap} {i.dataLength} {Hex.text value.toNat}"

end Instruction

end HartDebug
