import HartDebug.Proofs.Session.Places
import HartDebug.Proofs.Session.Recorded

/-!
# What operations are made of

The operations of a session are put together from few parts: the accesses to the transport, abstract commands
together with the wait for them, and what is done without the transport.  A property of actions that the parts
have, and that carries over from parts to wholes, is a property of every operation.

Some operations are left to the property itself: the two that look into the outcome of a part of theirs, one
to clear an error and the other, the dump, to take an error for an answer; and the two that open and close the
way to the module.

* `Session.Composes` — a property that carries over from parts to wholes;
* `Session.Parts` — one that expectations and programs have, too, whatever the transport makes of them;
* `Composes.parts` — where values are read back, both come down to the other parts;
* `Parts.writeRegister`, `Parts.step`, … — operations from their parts;
* `Parts.perform` — **every operation has the property**;
* `performEach_carries` — **what each operation carries on, operations one after another do**.
-/

namespace HartDebug.Session

variable {τ : Type} [Transport τ]

/-- A property of actions that the parts of operations have, and wholes as soon as their parts have it.  A
command is a part together with the wait for it, and its error is for the wait to report. -/
structure Composes (P : ∀ {α : Type}, Action DebugError (Session τ) α → Prop) : Prop where
  protected congr : ∀ {α : Type} {x y : Action DebugError (Session τ) α}, P x →
    (∀ s, y.exec s = x.exec s) → P y
  protected pure : ∀ {α : Type} (a : α), P (pure a)
  protected throw : ∀ {α : Type} {e : DebugError}, (∀ error, e ≠ .command error) →
    P (throw e : Action DebugError (Session τ) α)
  protected log : ∀ level source text, P (Action.log level source text)
  protected modify : ∀ {f : Session τ → Session τ}, (∀ s, (f s).transport = s.transport) →
    P (modify f)
  protected bind : ∀ {α β : Type} {x : Action DebugError (Session τ) α}
    {f : α → Action DebugError (Session τ) β}, P x → (∀ a, P (f a)) → P (x >>= f)
  protected get_bind : ∀ {β : Type} {f : Session τ → Action DebugError (Session τ) β},
    (∀ s, P (f s)) → P (get >>= f)
  protected write : ∀ {address : BusAddress} (data : Word), address ≠ .command →
    address ≠ .abstractcs → P (onTransport (Bus.write address data))
  protected read : ∀ address, P (onTransport (Bus.read address))
  protected writeDtmcs : ∀ value, P (onTransport (Bus.writeDtmcs value))
  protected readDtmcs : P (onTransport Bus.readDtmcs)
  protected readIdcode : P (onTransport Bus.readIdcode)
  protected resetTap : P (onTransport Bus.resetTap)
  protected command : ∀ w, P (do writeDmi .command w; waitForCommand)
  protected waitForCommand : P waitForCommand

/-- A property of actions that expectations and programs have as well. -/
structure Parts (P : ∀ {α : Type}, Action DebugError (Session τ) α → Prop) : Prop
    extends Composes (P := P) where
  protected expect : ∀ address expected mask, P (onTransport (Transport.expect address expected mask))
  protected expectIdcode : ∀ expected, P (onTransport (Transport.expectIdcode expected))
  protected executeProgram : P executeProgram

namespace Composes

variable {P : ∀ {α : Type}, Action DebugError (Session τ) α → Prop} (h : Composes (P := P))

include h

/-! ### Without the bus -/

protected theorem map {α β : Type} {x : Action DebugError (Session τ) α} (part : P x) (f : α → β) :
    P (f <$> x) :=
  h.bind part fun a => h.pure (f a)

protected theorem failLogged {α : Type} (source : Source) {e : DebugError}
    (own : ∀ error, e ≠ .command error) :
    P (failLogged source e : Action DebugError (Session τ) α) :=
  h.bind (h.log _ _ _) fun _ => h.throw own

protected theorem ofExcept {α : Type} {r : Except DebugError α}
    (own : ∀ e, r = .error e → ∀ error, e ≠ .command error) : P (Action.ofExcept r) := by
  cases r with
  | ok a => exact h.pure a
  | error e => exact h.throw (own e rfl)

protected theorem forM {β : Type} {f : β → Action DebugError (Session τ) PUnit} {l : List β}
    (each : ∀ b ∈ l, P (f b)) : P (l.forM f) := by
  induction l with
  | nil => exact h.pure _
  | cons b l ih =>
    show P (f b >>= fun _ => l.forM f)
    exact h.bind (each b List.mem_cons_self) fun _ =>
      ih fun c mem => each c (List.mem_cons_of_mem b mem)

protected theorem mapM {α β : Type} {f : β → Action DebugError (Session τ) α} {l : List β}
    (each : ∀ b ∈ l, P (f b)) : P (l.mapM f) := by
  suffices from_here : ∀ done, P (List.mapM.loop f l done) from from_here []
  induction l with
  | nil => exact fun done => h.pure done.reverse
  | cons b l ih =>
    exact fun done => h.bind (each b List.mem_cons_self) fun a =>
      ih (fun c mem => each c (List.mem_cons_of_mem b mem)) (a :: done)

/-! ### Single accesses -/

protected theorem writeDmi {address : BusAddress} (data : Word) (command : address ≠ .command)
    (status : address ≠ .abstractcs) : P (writeDmi address data) :=
  h.bind (h.log _ _ _) fun _ => h.write data command status

protected theorem readDmi (address : BusAddress) : P (readDmi address) :=
  h.bind (h.read address) fun data => h.bind (h.log _ _ _) fun _ => h.pure data

protected theorem diagnose : P (diagnose (τ := τ)) := by
  refine h.bind h.readDtmcs fun status => ?_
  dsimp only
  split
  · exact h.pure _
  · split
    · exact h.pure _
    · refine h.bind (h.readDmi _) fun control => ?_
      split
      · refine h.bind (h.readDmi _) fun abstractcs => ?_
        split
        · exact h.pure _
        · exact h.pure _
      · exact h.pure _

protected theorem request (f : BitField) : P (request (τ := τ) f) :=
  h.writeDmi _ (by decide) (by decide)

protected theorem withdraw : P (withdraw (τ := τ)) :=
  h.writeDmi _ (by decide) (by decide)

/-! ### Registers and programs -/

protected theorem locateFor (name : String) (value : Value) (width : Option TransferWidth) :
    P (locateFor (τ := τ) name value width) := by
  refine h.get_bind fun s => h.bind (h.ofExcept fun e unknown => ?_) fun place => ?_
  · rw [locate_eq_error unknown]
    exact nofun
  · split
    · exact h.pure place
    · exact h.failLogged _ nofun

protected theorem writeRegister (name : String) (value : Value) (width : Option TransferWidth) :
    P (writeRegister (τ := τ) name value width) := by
  refine h.bind (h.locateFor name value width) fun place => h.bind (h.log _ _ _) fun _ => ?_
  refine h.bind (h.forM fun slot mem => ?_) fun _ => h.command _
  have below := List.mem_range.1 mem
  have most := place.width.slots_le
  obtain ⟨command, status⟩ := BusAddress.data_ne (show slot < 4 by omega)
  exact h.writeDmi _ command status

protected theorem loadFrom (i : Nat) (program : List Word) (room : i + program.length ≤ 16) :
    P (loadFrom (τ := τ) i program) := by
  induction program generalizing i with
  | nil => exact h.pure ()
  | cons instruction rest ih =>
    rw [List.length_cons] at room
    obtain ⟨command, status⟩ := BusAddress.progbuf_ne (show i < 16 by omega)
    refine h.bind (h.log _ _ _) fun _ => h.bind (h.writeDmi _ command status) fun _ => ?_
    exact ih (i + 1) (by omega)

protected theorem loadProgram (program : List Word) : P (loadProgram (τ := τ) program) := by
  refine h.get_bind fun s => ?_
  have limit : s.programLimit ≤ 16 := Nat.min_le_right _ _
  dsimp only
  split
  · exact h.failLogged _ nofun
  · exact h.bind (h.log _ _ _) fun _ => h.loadFrom 0 program (by omega)

/-! ### Where values are read back -/

/-- **Where values are read back**, an expectation is a read that is compared, and a program is waited for as
any command is. -/
protected theorem parts [ReadsBack τ] : Parts (P := P) where
  toComposes := h
  expect address expected mask := by
    have compared := h.bind (h.read address) fun actual =>
      h.pure (if actual &&& mask = expected &&& mask then Check.passed else .failed actual)
    refine h.congr compared fun s => ?_
    rw [ReadsBack.expect_eq, Bus.readAndCompare, exec_onTransport_bind, Action.exec_bind, Action.exec_bind]
    rcases (onTransport (Bus.read address)).exec s with ⟨_ | actual, s'⟩
    · rfl
    · dsimp only
      split <;> rfl
  expectIdcode expected := by
    have compared := h.bind h.readIdcode fun actual =>
      h.pure (if actual = expected then Check.passed else .failed actual)
    refine h.congr compared fun s => ?_
    rw [ReadsBack.expectIdcode_eq, Bus.readAndCompareIdcode, exec_onTransport_bind, Action.exec_bind,
      Action.exec_bind]
    rcases (onTransport Bus.readIdcode).exec s with ⟨_ | actual, s'⟩
    · rfl
    · dsimp only
      split <;> rfl
  executeProgram := by
    refine h.congr (h.command AccessRegister.execute) fun s => ?_
    rw [executeProgram, Action.exec_bind_ok (Action.exec_log _ _ _ s), Action.exec_bind,
      Action.exec_bind]
    rcases (writeDmi .command AccessRegister.execute).exec s with ⟨_ | _, s'⟩
    · rfl
    · dsimp only
      rw [Action.exec_bind_ok (Action.exec_get s'), isLive_eq_true, if_pos rfl]

end Composes

/-! ## Operations -/

namespace Parts

variable {P : ∀ {α : Type}, Action DebugError (Session τ) α → Prop} (h : Parts (P := P))

include h

protected theorem expectDmi (address : BusAddress) (expected mask : Word) (failure : String) :
    P (expectDmi address expected mask failure) := by
  refine h.bind (h.expect address expected mask) fun check => ?_
  cases check with
  | passed => exact h.pure ()
  | deferred => exact h.pure ()
  | failed actual => exact h.failLogged _ nofun

protected theorem requireIdcode (expected : Word) : P (Session.expectIdcode expected) := by
  refine h.bind (h.expectIdcode expected) fun check => ?_
  cases check with
  | passed => exact h.pure ()
  | deferred => exact h.pure ()
  | failed actual => exact h.failLogged _ nofun

protected theorem expectNoBusError (cleared : String) : P (expectNoBusError cleared) := by
  refine h.get_bind fun s => ?_
  split
  · refine h.bind h.readDtmcs fun status => ?_
    dsimp only
    split
    · exact h.failLogged _ nofun
    · exact h.pure _
  · exact h.pure _

protected theorem readRegister (name : String) (width : Option TransferWidth) :
    P (readRegister (τ := τ) name width) := by
  refine h.get_bind fun s => h.bind (h.ofExcept fun e unknown => ?_) fun place => h.get_bind fun s => ?_
  · rw [locate_eq_error unknown]
    exact nofun
  · split
    · refine h.bind (h.command _) fun _ => h.bind (h.mapM fun slot _ => h.readDmi _) fun words => ?_
      exact h.bind (h.log _ _ _) fun _ => h.pure _
    · exact h.throw nofun

protected theorem expectRegister (name : String) (expected : Value) (width : Option TransferWidth) :
    P (expectRegister (τ := τ) name expected width) := by
  refine h.bind (h.locateFor name expected width) fun place => h.bind (h.command _) fun _ => ?_
  exact h.forM fun slot _ => h.expectDmi _ _ _ _

protected theorem activateDm : P (activateDm (τ := τ)) :=
  h.bind (h.log _ _ _) fun _ => h.bind (h.writeDmi _ (by decide) (by decide)) fun _ =>
    h.expectDmi _ _ _ _

protected theorem deactivateDm : P (deactivateDm (τ := τ)) :=
  h.bind (h.log _ _ _) fun _ => h.bind (h.writeDmi _ (by decide) (by decide)) fun _ =>
    h.expectDmi _ _ _ _

protected theorem halt : P (halt (τ := τ)) :=
  h.bind (h.log _ _ _) fun _ => h.bind (h.request _) fun _ =>
    h.bind (h.expectDmi _ _ _ _) fun _ => h.withdraw

protected theorem resume : P (resume (τ := τ)) :=
  h.bind (h.log _ _ _) fun _ => h.bind (h.request _) fun _ => h.expectDmi _ _ _ _

protected theorem currentDcsr : P (currentDcsr (τ := τ)) := by
  refine h.get_bind fun s => ?_
  split
  · exact h.bind (h.readRegister _ _) fun value => h.pure _
  · exact h.get_bind fun s => h.pure _

protected theorem step : P (step (τ := τ)) := by
  refine h.bind (h.log _ _ _) fun _ => h.bind h.currentDcsr fun dcsr => ?_
  have finish : P (do
      request (τ := τ) Dmcontrol.resumereq
      writeDcsr (dcsr &&& ~~~ stepBit)
      modify fun s : Session τ => { s with dcsrShadow := dcsr &&& ~~~ stepBit }) :=
    h.bind (h.request _) fun _ => h.bind (h.writeRegister _ _ _) fun _ => h.modify fun _ => rfl
  dsimp only
  split
  · exact h.bind (h.writeRegister _ _ _) fun _ => finish
  · exact finish

protected theorem resetHart : P (resetHart (τ := τ)) :=
  h.bind (h.log _ _ _) fun _ => h.bind (h.request _) fun _ => h.bind h.withdraw fun _ =>
    h.bind (h.expectDmi _ _ _ _) fun _ => h.bind (h.request _) fun _ => h.modify fun _ => rfl

/-- **Every operation has the property**, raw writes apart, if the few have it that are left to it. -/
protected theorem perform {op : Operation} (cooked : ∀ address data, op ≠ .writeDmi address data)
    (connect : op = .connect → P (onTransport (τ := τ) Bus.connect))
    (disconnect : op = .disconnect → P (onTransport (τ := τ) Bus.disconnect))
    (clear : op = .clearCommandError → P (clearCommandError (τ := τ)))
    (dump : ∀ group width, op = .dumpRegisters group width →
      P (dumpRegisters (τ := τ) group width)) : P (op.perform (τ := τ)) := by
  have done {x : Action DebugError (Session τ) Unit} (part : P x) :
      P (do x; pure Operation.Reply.done) := h.bind part fun _ => h.pure _
  cases op with
  | writeDmi address data => exact absurd rfl (cooked address data)
  | readDmi address => exact h.map (h.readDmi address) _
  | expectDmi address expected mask failure => exact done (h.expectDmi address expected mask failure)
  | resetStickyError => exact done (h.bind (h.writeDtmcs _) fun _ => h.expectNoBusError _)
  | hardResetDtm => exact done (h.bind (h.writeDtmcs _) fun _ => h.expectNoBusError _)
  | activateDm => exact done h.activateDm
  | deactivateDm => exact done h.deactivateDm
  | resetDm => exact done (h.bind h.deactivateDm fun _ => h.activateDm)
  | resetTap => exact done h.resetTap
  | readIdcode =>
    exact h.map (h.bind h.readIdcode fun idcode => h.bind (h.log _ _ _) fun _ => h.pure idcode) _
  | expectIdcode expected => exact done (h.requireIdcode expected)
  | diagnose => exact h.map h.diagnose _
  | writeRegister name value width => exact done (h.writeRegister name value width)
  | readRegister name width => exact h.map (h.readRegister name width) _
  | expectRegister name expected width => exact done (h.expectRegister name expected width)
  | waitForCommand => exact done h.waitForCommand
  | clearCommandError => exact done (clear rfl)
  | dumpRegisters group width => exact h.map (dump group width rfl) _
  | discoverProgbufSize =>
    refine h.map (h.bind (h.readDmi _) fun status => h.bind (h.log _ _ _) fun _ => ?_) _
    exact h.bind (h.modify fun _ => rfl) fun _ => h.pure _
  | halt => exact done h.halt
  | resume => exact done h.resume
  | step => exact done h.step
  | resetHart => exact done h.resetHart
  | setHaltOnReset => exact done (h.bind (h.log _ _ _) fun _ => h.request _)
  | clearHaltOnReset => exact done (h.bind (h.log _ _ _) fun _ => h.request _)
  | hartStatus => exact h.map (h.bind (h.readDmi _) fun status => h.pure _) _
  | loadProgram program => exact done (h.loadProgram program)
  | executeProgram => exact done h.executeProgram
  | setWidth width => exact done (h.modify fun _ => rfl)
  | connect => exact done (connect rfl)
  | disconnect => exact done (disconnect rfl)

end Parts

/-! ## Sequences of operations -/

/-- **What each operation carries on, operations one after another do**, none of which runs out of time.  What
is carried on may change with each operation and its outcome.  The induction is on the operations. -/
theorem performEach_carries {ι : Type} (next : ι → Operation × Except DebugError Operation.Reply → ι)
    (Holds : ι → Session τ → Prop) {ops : List Operation}
    (each : ∀ op ∈ ops, ∀ i s, Holds i s → ∀ outcome s', op.perform.exec s = (outcome, s') →
      Holds (next i (op, outcome)) s' ∨ ∃ limit, outcome = .error (.busyTimeout limit))
    {i : ι} {s t : Session τ} (begun : Holds i s) {outcomes : List (Except DebugError Operation.Reply)}
    (ran : (Operation.performEach ops).exec s = (.ok outcomes, t))
    (in_time : ∀ limit, .error (.busyTimeout limit) ∉ outcomes) :
    Holds ((ops.zip outcomes).foldl next i) t := by
  induction ops generalizing i s outcomes with
  | nil =>
    obtain ⟨-, rfl⟩ := Prod.mk.inj ran
    exact begun
  | cons op ops ih =>
    obtain ⟨others, later, rfl⟩ := Operation.performEach_cons_eq_ok ran
    have others_each := fun op' mem => each op' (List.mem_cons_of_mem op mem)
    have others_in_time := fun limit mem => in_time limit (List.mem_cons_of_mem _ mem)
    rcases each op List.mem_cons_self i s begun _ _ rfl with carried | ⟨limit, late⟩
    · exact ih others_each carried later others_in_time
    · exact absurd (late ▸ List.mem_cons_self) (in_time limit)

end HartDebug.Session
