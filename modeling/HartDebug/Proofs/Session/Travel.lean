import HartDebug.Proofs.Effects
import HartDebug.Proofs.Session.Parts
import HartDebug.Proofs.Session.Polling

/-!
# What operations leave of a transport

A relation between states of a transport that every access keeps to, connecting and disconnecting apart, is one
that every operation of a session keeps to, on every transport and however it ends.

* `Transport.Stays` — a relation that the accesses keep to;
* `Session.Along` — the relation between sessions over such states;
* `parts_stays`, `moves_perform` — **what the accesses keep to, every operation does**.
-/

namespace HartDebug

open Action (Moves IsTravel)

variable {τ α : Type} {R : τ → τ → Prop}

/-- Every access to the transport moves it along the relation; connecting and disconnecting are left out. -/
structure Transport.Stays [Transport τ] (R : τ → τ → Prop) : Prop where
  travel : IsTravel R
  write : ∀ address data, Moves R (Bus.write address data : Action DebugError τ Unit)
  read : ∀ address, Moves R (Bus.read address : Action DebugError τ Word)
  writeDtmcs : ∀ value, Moves R (Bus.writeDtmcs value : Action DebugError τ Unit)
  readDtmcs : Moves R (Bus.readDtmcs : Action DebugError τ Word)
  readIdcode : Moves R (Bus.readIdcode : Action DebugError τ Word)
  resetTap : Moves R (Bus.resetTap : Action DebugError τ Unit)
  expect : ∀ address expected mask,
    Moves R (Transport.expect address expected mask : Action DebugError τ Check)
  expectIdcode : ∀ expected, Moves R (Transport.expectIdcode expected : Action DebugError τ Check)
  idle : ∀ cycles, Moves R (Transport.idle cycles : Action DebugError τ Unit)

/-- An expectation that is read and compared moves as the read does. -/
theorem moves_readAndCompare [Bus τ] (travel : IsTravel R) {address : BusAddress}
    (read : Moves R (Bus.read address : Action DebugError τ Word)) (expected mask : Word) :
    Moves R (Bus.readAndCompare address expected mask : Action DebugError τ Check) := by
  apply read.bind travel
  intro actual
  split
  · exact .pure travel _
  · exact .pure travel _

theorem moves_readAndCompareIdcode [Bus τ] (travel : IsTravel R)
    (read : Moves R (Bus.readIdcode : Action DebugError τ Word)) (expected : Word) :
    Moves R (Bus.readAndCompareIdcode expected : Action DebugError τ Check) := by
  apply read.bind travel
  intro actual
  split
  · exact .pure travel _
  · exact .pure travel _

/-- Sessions over transports that are related. -/
def Session.Along (R : τ → τ → Prop) (s t : Session τ) : Prop :=
  R s.transport t.transport

theorem Session.isTravel_along (travel : IsTravel R) : IsTravel (Along R) where
  refl s := travel.refl s.transport
  trans first second := travel.trans first second

theorem Transport.Stays.along [Transport τ] (h : Transport.Stays R) : IsTravel (Session.Along R) :=
  Session.isTravel_along h.travel

namespace Session

theorem moves_onTransport {x : Action DebugError τ α} (h : Moves R x) :
    Moves (Along R) (onTransport x) :=
  h.onPart fun _ _ moved => moved

/-- What leaves the transport as it is keeps to every relation. -/
theorem moves_of_unmoved {x : Action DebugError (Session τ) α} (travel : IsTravel R)
    (h : ∀ s, (x.exec s).2.transport = s.transport) : Moves (Along R) x := by
  intro s
  rw [Along, h]
  exact travel.refl _

theorem moves_failLogged (travel : IsTravel R) (source : Source) (e : DebugError) :
    Moves R (failLogged source e : Action DebugError τ α) :=
  (Moves.log travel _ _ _).bind travel fun _ => .throw travel _

theorem moves_adoptXlen (travel : IsTravel R) (xlen : Nat) :
    Moves (Along R) (adoptXlen (τ := τ) xlen) := by
  have along := isTravel_along travel
  refine (moves_of_unmoved travel fun _ => rfl).bind along fun _ => (Moves.get along).bind along fun s => ?_
  split
  · exact (Moves.ofExcept along _).bind along fun width =>
      (moves_of_unmoved travel fun _ => rfl).bind along fun _ => .log along _ _ _
  · exact .pure along _

variable [Transport τ] (h : Transport.Stays R)

include h

theorem moves_readDmi (address : BusAddress) : Moves (Along R) (readDmi address) :=
  (moves_onTransport (h.read address)).bind h.along fun data =>
    (Moves.log h.along _ _ _).bind h.along fun _ => .pure h.along data

theorem moves_writeDmi (address : BusAddress) (data : Word) :
    Moves (Along R) (writeDmi address data) :=
  (Moves.log h.along _ _ _).bind h.along fun _ => moves_onTransport (h.write address data)

/-! ### Waiting for commands -/

theorem moves_pollOnce (deadline : Nat) : Moves (Along R) (pollOnce deadline) := by
  have travel := h.along
  refine (moves_readDmi h _).bind travel fun abstractcs => ?_
  split
  · have looked : Moves (Along R) (lookAtClock (τ := τ)) := moves_of_unmoved h.travel fun _ => rfl
    have paused : Moves (Along R) (pause (τ := τ)) := moves_of_unmoved h.travel fun _ => rfl
    refine looked.bind travel fun now => ?_
    split
    · exact moves_of_unmoved h.travel fun _ => rfl
    · exact paused.bind travel fun _ => .pure travel _
  · exact .pure travel _

/-- A poll keeps to the relation, look by look. -/
theorem moves_pollUntil (deadline : Nat) :
    Moves (Along R) (pollUntil deadline : Action DebugError (Session τ) Word) := by
  refine induction_on_looks deadline fun s rest => ?_
  have looked := moves_pollOnce h deadline s
  rw [exec_pollUntil]
  generalize (pollOnce deadline).exec s = look at looked rest
  obtain ⟨outcome, s'⟩ := look
  rcases outcome with e | _ | abstractcs
  · exact looked
  · exact h.travel.trans looked (rest s' rfl)
  · exact looked

theorem moves_pollAbstractcs : Moves (Along R) (pollAbstractcs (τ := τ)) := by
  have travel := h.along
  have looked : Moves (Along R) (lookAtClock (τ := τ)) := moves_of_unmoved h.travel fun _ => rfl
  refine looked.bind travel fun started => ?_
  exact (Moves.get travel).bind travel fun s => moves_pollUntil h _

theorem moves_expectDmi (address : BusAddress) (expected mask : Word) (failure : String) :
    Moves (Along R) (expectDmi address expected mask failure) := by
  refine (moves_onTransport (h.expect address expected mask)).bind h.along fun check => ?_
  cases check with
  | passed => exact .pure h.along ()
  | deferred => exact .pure h.along ()
  | failed actual => exact moves_of_unmoved h.travel fun _ => rfl

theorem moves_waitForCommand : Moves (Along R) (waitForCommand (τ := τ)) := by
  have travel := h.along
  refine (Moves.get travel).bind travel fun s => ?_
  split
  · refine (moves_pollAbstractcs h).bind travel fun abstractcs => ?_
    split
    · exact .pure travel ()
    · exact .throw travel _
  · refine (Moves.get travel).bind travel fun s => ?_
    exact (moves_onTransport (h.idle _)).bind travel fun _ => moves_expectDmi h _ _ _ _

theorem moves_clearCommandError : Moves (Along R) (clearCommandError (τ := τ)) := by
  have travel := h.along
  refine (moves_writeDmi h _ _).bind travel fun _ => (Moves.get travel).bind travel fun s => ?_
  split
  · refine (moves_pollAbstractcs h).bind travel fun abstractcs => ?_
    split
    · exact .pure travel ()
    · exact moves_of_unmoved h.travel fun _ => rfl
  · exact moves_expectDmi h _ _ _ _

/-- What the accesses keep to, the parts of operations do. -/
theorem parts_stays :
    Parts (fun {α} (x : Action DebugError (Session τ) α) => Moves (Along R) x) where
  congr part same := fun s => by
    rw [same]
    exact part s
  pure := .pure h.along
  throw _ := .throw h.along _
  log := .log h.along
  modify same := moves_of_unmoved h.travel same
  bind first second := first.bind h.along second
  get_bind each := (Moves.get h.along).bind h.along each
  write data _ _ := moves_onTransport (h.write _ data)
  read address := moves_onTransport (h.read address)
  writeDtmcs value := moves_onTransport (h.writeDtmcs value)
  readDtmcs := moves_onTransport h.readDtmcs
  readIdcode := moves_onTransport h.readIdcode
  resetTap := moves_onTransport h.resetTap
  expect address expected mask := moves_onTransport (h.expect address expected mask)
  expectIdcode expected := moves_onTransport (h.expectIdcode expected)
  command w := (moves_writeDmi h _ w).bind h.along fun _ => moves_waitForCommand h
  waitForCommand := moves_waitForCommand h
  executeProgram := by
    have travel := h.along
    refine (Moves.log travel _ _ _).bind travel fun _ => (moves_writeDmi h _ _).bind travel fun _ => ?_
    refine (Moves.get travel).bind travel fun s => ?_
    split
    · exact moves_waitForCommand h
    · exact (Moves.get travel).bind travel fun s => moves_onTransport (h.idle _)

theorem moves_dumpNames (group : RegisterGroup) (width : Option TransferWidth) :
    ∀ names : List String, Moves (Along R) (dumpNames (τ := τ) group width names)
  | [] => .pure h.along []
  | name :: rest => by
    have travel := h.along
    refine (Moves.attempt ((parts_stays h).readRegister name width)).bind travel fun outcome => ?_
    split
    · exact (moves_dumpNames group width rest).bind travel fun others => .pure travel _
    · exact (Moves.log travel _ _ _).bind travel fun _ =>
        (moves_clearCommandError h).bind travel fun _ => .pure travel _
    · exact .throw travel _

/-- **What the accesses keep to, every operation does**, connecting and disconnecting apart. -/
theorem moves_perform {op : Operation} (keeps : op.KeepsConnection) :
    Moves (Along R) (op.perform (τ := τ)) := by
  by_cases raw : ∃ address data, op = .writeDmi address data
  · obtain ⟨address, data, rfl⟩ := raw
    exact (moves_writeDmi h address data).bind h.along fun _ =>
      .pure h.along _
  · refine (parts_stays h).perform (fun address data same => raw ⟨address, data, same⟩)
      (fun same => absurd same keeps.1) (fun same => absurd same keeps.2)
      (fun _ => moves_clearCommandError h) fun group width _ => ?_
    exact moves_dumpNames h group width _

end Session

end HartDebug
