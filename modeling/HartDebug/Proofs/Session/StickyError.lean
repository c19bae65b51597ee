import HartDebug.Proofs.Session.LatchedError
import HartDebug.Proofs.Session.RegisterFile

/-!
# Commands after an error

A module that has latched an error drops every command until the error is cleared.  Whatever asks for one
then reports that very error, and the hart is left alone: no register changes and no program runs.  Clearing
the error is all it takes to go on.

* `SimulatedModule.HartAlike` — two states of a module whose hart has done nothing in between;
* `Session.Dropping` — a session whose module drops commands;
* `composes_drops`, `Dropping.performEach` — **operations leave the error latched and the hart alone**;
* `Operation.ReachesCommand`, `reports_perform` — **what comes to ask for a command reports the error**;
* `ends_writeRegister` — a write of a register where no error is latched;
* `errors_stick_and_harm_nothing` — both together.
-/

namespace HartDebug

open Action (Triple Ends)

/-! ## The module -/

namespace SimulatedModule

/-- The hart has the same registers, written as often, and has run no more programs. -/
structure HartAlike (m m' : SimulatedModule) : Prop where
  registers : m'.registers = m.registers
  registerWrites : m'.registerWrites = m.registerWrites
  programsRun : m'.programsRun = m.programsRun

/-- A write to anything but `command` does not reach the hart's registers. -/
theorem hartAlike_writeBus_of_ne (m : SimulatedModule) {address : BusAddress} (h : address ≠ .command)
    (w : Word) : m.HartAlike (m.writeBus address w) := by
  rw [writeBus, if_neg h]
  split
  · rw [onlyRunControl_control m w]
    constructor <;> rfl
  · split
    · constructor <;> rfl
    · cases dataSlot? address with
      | some i => constructor <;> rfl
      | none => cases progbufSlot? address <;> constructor <;> rfl

theorem HartAlike.trans {a b c : SimulatedModule} (h : a.HartAlike b) (h' : b.HartAlike c) :
    a.HartAlike c :=
  ⟨h'.1.trans h.1, h'.2.trans h.2, h'.3.trans h.3⟩

/-- A connected module with nothing in flight that has the error of `m` latched, and its hart as it was. -/
structure Withholds (m n : SimulatedModule) : Prop where
  connected : n.connected = true
  idle : n.busyLeft = 0
  free : n.stuckBusy = false
  error : n.cmderr = m.cmderr
  hart : m.HartAlike n

variable {m n : SimulatedModule}

theorem Withholds.isBusy (h : m.Withholds n) : n.isBusy = false := by
  simp [SimulatedModule.isBusy, h.idle, h.free]

theorem Withholds.writeBus (h : m.Withholds n) {address : BusAddress} (w : Word)
    (command : address ≠ .command) (status : address ≠ .abstractcs) :
    m.Withholds (n.writeBus address w) where
  connected := (n.setUpAlike_writeBus address w).connected.trans h.connected
  idle := (n.busyLeft_writeBus_of_ne command w).trans h.idle
  free := (n.setUpAlike_writeBus address w).stuckBusy.trans h.free
  error := (n.cmderr_writeBus_of_ne status command w).trans h.error
  hart := h.hart.trans (n.hartAlike_writeBus_of_ne command w)

end SimulatedModule

namespace Session

variable {m : SimulatedModule} {s t : Session SimulatedModule} {α β : Type}

/-! ## Sessions whose module drops commands -/

/-- The module of the session withholds what commands ask for. -/
def Dropping (m : SimulatedModule) (s : Session SimulatedModule) : Prop :=
  m.Withholds s.transport

/-- However it ends, the action leaves the error latched and the hart alone. -/
abbrev Drops (m : SimulatedModule) (x : Action DebugError (Session SimulatedModule) α) : Prop :=
  Triple (Dropping m) x (fun _ => Dropping m) (fun _ => Dropping m)

theorem drops_access {x : Action DebugError SimulatedModule α}
    (after : ∀ n, m.Withholds n → m.Withholds (x.exec n).2) : Drops m (onTransport x) := by
  intro s dropping
  have left := after s.transport dropping
  rw [exec_onTransport]
  generalize x.exec s.transport = ran at left
  obtain ⟨outcome, n⟩ := ran
  cases outcome with
  | ok a => exact left
  | error e => exact left

section

variable (fits : m.ErrorFits) (latched : m.cmderr ≠ 0) (dropping : Dropping m s)

include fits latched dropping

/-- The wait for a command that was dropped is a single look, and it reports the error. -/
theorem exec_waitForCommand_dropped :
    waitForCommand.exec s =
      (.error (.command (.ofCode m.cmderr.toNat)), { s with timer := s.timer.looked }) := by
  have fits' : s.transport.ErrorFits := SimulatedModule.errorFits_of_cmderr fits dropping.error
  rw [exec_waitForCommand dropping.connected fits' dropping.free (drainsInTime_of_idle dropping.idle),
    polled_of_idle dropping.idle, dropping.error, if_neg latched]

/-- **A command that is dropped** reports the error that is latched and changes nothing. -/
theorem exec_command_dropped (w : Word) :
    (do writeDmi .command w; waitForCommand).exec s =
      (.error (.command (.ofCode m.cmderr.toNat)), { s with timer := s.timer.looked }) := by
  have latched' : s.transport.cmderr ≠ 0 := by
    rw [dropping.error]
    exact latched
  rw [Action.exec_bind_ok (exec_writeDmi dropping.connected _ _), SimulatedModule.writeBus_command,
    SimulatedModule.execute_of_latched dropping.isBusy latched']
  exact exec_waitForCommand_dropped fits latched dropping

end

/-- **Operations leave the error latched and the hart alone**, as their parts do. -/
theorem composes_drops (fits : m.ErrorFits) (latched : m.cmderr ≠ 0) :
    Composes (fun {α} (x : Action DebugError (Session SimulatedModule) α) => Drops m x) where
  congr part same := Triple.congr part same
  pure _ := .pure fun _ dropping => dropping
  throw _ := .throw fun _ dropping => dropping
  log _ _ _ := .log _ _ _ fun _ dropping => dropping
  modify same := .modify fun s dropping => by
    rw [Dropping, same]
    exact dropping
  bind first second := Triple.bind first second
  get_bind h := .get_bind fun s dropping => h s s dropping
  write data command status := drops_access fun n withholds => by
    rw [exec_writeBus withholds.connected]
    exact withholds.writeBus data command status
  read address := drops_access fun n withholds => by
    rw [exec_readBus withholds.connected, SimulatedModule.readBus_state_of_idle withholds.idle]
    exact withholds
  writeDtmcs value := drops_access fun n withholds => by
    show m.Withholds (n.writeTransport value)
    rw [SimulatedModule.writeTransport]
    split
    · exact ⟨withholds.connected, withholds.idle, withholds.free, withholds.error,
        withholds.hart.trans ⟨rfl, rfl, rfl⟩⟩
    · exact withholds
  readDtmcs := drops_access fun _ withholds => withholds
  readIdcode := drops_access fun _ withholds => withholds
  resetTap := drops_access fun _ withholds =>
    ⟨withholds.connected, withholds.idle, withholds.free, withholds.error,
      withholds.hart.trans ⟨rfl, rfl, rfl⟩⟩
  command w := by
    intro s dropping
    rw [exec_command_dropped fits latched dropping w]
    exact dropping
  waitForCommand := by
    intro s dropping
    rw [exec_waitForCommand_dropped fits latched dropping]
    exact dropping

end Session

/-! ## Operations -/

/-- The operation does not clear errors, is no raw write, and does not disconnect. -/
def Operation.LeavesErrors (op : Operation) : Prop :=
  op ≠ .clearCommandError ∧ (∀ group width, op ≠ .dumpRegisters group width) ∧
    (∀ address data, op ≠ .writeDmi address data) ∧ op ≠ .disconnect

/-- The operation comes to ask for a command: it accesses a register or runs a program, and what it names
and carries is in order. -/
def Operation.ReachesCommand {τ : Type} (s : Session τ) : Operation → Prop
  | .writeRegister name value width => s.placeRefusal? name value width = none
  | .expectRegister name expected width => s.placeRefusal? name expected width = none
  | .readRegister name width => ∃ place, s.locate name width = .ok place
  | .step => True
  | .executeProgram => True
  | _ => False

namespace Session

open Operation (performEach)

variable {m : SimulatedModule} {s t : Session SimulatedModule}

section

variable (fits : m.ErrorFits) (latched : m.cmderr ≠ 0)

include fits latched

theorem drops_perform {op : Operation} (leaves : op.LeavesErrors) : Drops m op.perform := by
  obtain ⟨no_clear, no_dump, cooked, stays⟩ := leaves
  apply (composes_drops fits latched).parts.perform cooked
  · intro _
    exact drops_access fun _ withholds =>
      ⟨rfl, withholds.idle, withholds.free, withholds.error, withholds.hart.trans ⟨rfl, rfl, rfl⟩⟩
  · exact fun disconnect => absurd disconnect stays
  · exact fun clear => absurd clear no_clear
  · exact fun group width dump => absurd dump (no_dump group width)

/-- **So do operations one after another**, by induction on them. -/
theorem Dropping.performEach {ops : List Operation} (leaves : ∀ op ∈ ops, op.LeavesErrors)
    (dropping : Dropping m s) : Dropping m ((performEach ops).exec s).2 := by
  induction ops generalizing s with
  | nil => exact dropping
  | cons op rest ih =>
    have first := drops_perform fits latched (leaves op List.mem_cons_self) s dropping
    have next : Dropping m (op.perform.exec s).2 := by
      generalize op.perform.exec s = ran at first ⊢
      obtain ⟨outcome, s'⟩ := ran
      cases outcome with
      | ok reply => exact first
      | error e => exact first
    rw [Operation.exec_performEach_cons]
    exact ih (fun op' mem => leaves op' (List.mem_cons_of_mem op mem)) next

/-! ### What asks for a command -/

variable (dropping : Dropping m s)

include dropping

/-- A move of a register is a command with the wait for it. -/
theorem exec_moveRegister_dropped (place : Place) (isWrite : Bool) :
    (moveRegister place isWrite).exec s =
      (.error (.command (.ofCode m.cmderr.toNat)), { s with timer := s.timer.looked }) :=
  exec_command_dropped fits latched dropping _

theorem exec_readRegister_dropped {name : String} {width : Option TransferWidth} {place : Place}
    (located : s.locate name width = .ok place) :
    (readRegister name width).exec s =
      (.error (.command (.ofCode m.cmderr.toNat)), { s with timer := s.timer.looked }) := by
  rw [exec_readRegister_of_located (isLive_module s) located,
    Action.exec_bind_error (exec_moveRegister_dropped fits latched dropping place false)]

/-- The value goes into the operand registers, and the command that would store it is dropped. -/
theorem exec_writeRegister_dropped {name : String} {value : Value} {width : Option TransferWidth}
    (accepted : s.placeRefusal? name value width = none) :
    ((writeRegister name value width).exec s).1 = .error (.command (.ofCode m.cmderr.toNat)) := by
  obtain ⟨place, placed⟩ := exists_exec_locateFor accepted
  have held : Dropping m (s.withTransport (s.transport.holding value place.width.slots)) :=
    ⟨dropping.connected, dropping.idle, dropping.free, dropping.error, dropping.hart.trans ⟨rfl, rfl, rfl⟩⟩
  rw [writeRegister, Action.exec_bind_ok placed, Action.exec_bind_ok (Action.exec_log _ _ _ s),
    Action.exec_bind_ok (exec_forM_writeDmi dropping.connected _ _ _),
    SimulatedModule.foldl_writeBus_data s.transport value place.width.slots_le,
    exec_moveRegister_dropped fits latched held]

theorem exec_expectRegister_dropped {name : String} {expected : Value} {width : Option TransferWidth}
    (accepted : s.placeRefusal? name expected width = none) :
    ((expectRegister name expected width).exec s).1 =
      .error (.command (.ofCode m.cmderr.toNat)) := by
  obtain ⟨place, placed⟩ := exists_exec_locateFor accepted
  rw [expectRegister, Action.exec_bind_ok placed,
    Action.exec_bind_error (exec_moveRegister_dropped fits latched dropping place false)]

/-- A step begins with a read of a register, and ends there. -/
theorem exec_step_dropped :
    (step.exec s).1 = .error (.command (.ofCode m.cmderr.toNat)) := by
  have read : currentDcsr.exec s =
      (.error (.command (.ofCode m.cmderr.toNat)), { s with timer := s.timer.looked }) := by
    rw [currentDcsr, Action.exec_bind_ok (Action.exec_get s), isLive_module, if_pos rfl]
    exact Action.exec_bind_error (exec_readRegister_dropped fits latched dropping (locate_dcsr s)) _
  rw [step, Action.exec_bind_ok (Action.exec_log _ _ _ s), Action.exec_bind_error read]

theorem exec_executeProgram_dropped :
    (executeProgram.exec s).1 = .error (.command (.ofCode m.cmderr.toNat)) := by
  have command := exec_command_dropped fits latched dropping AccessRegister.execute
  rw [Action.exec_bind_ok (exec_writeDmi dropping.connected _ _)] at command
  rw [executeProgram, Action.exec_bind_ok (Action.exec_log _ _ _ s),
    Action.exec_bind_ok (exec_writeDmi dropping.connected _ _), Action.exec_bind_ok (Action.exec_get _),
    isLive_module, if_pos rfl, command]

/-- **What comes to ask for a command reports the error that is latched.** -/
theorem reports_perform {op : Operation} (reaches : op.ReachesCommand s) :
    (op.perform.exec s).1 = .error (.command (.ofCode m.cmderr.toNat)) := by
  have done {x : Action DebugError (Session SimulatedModule) Unit}
      (h : (x.exec s).1 = .error (.command (.ofCode m.cmderr.toNat))) :
      ((do x; pure Operation.Reply.done).exec s).1 = .error (.command (.ofCode m.cmderr.toNat)) := by
    rw [Action.exec_bind_error (Prod.ext h rfl)]
  cases op with
  | writeRegister name value width => exact done (exec_writeRegister_dropped fits latched dropping reaches)
  | expectRegister name expected width =>
    exact done (exec_expectRegister_dropped fits latched dropping reaches)
  | readRegister name width =>
    obtain ⟨place, located⟩ := reaches
    rw [Operation.perform, Action.exec_map, exec_readRegister_dropped fits latched dropping located]
    rfl
  | step => exact done (exec_step_dropped fits latched dropping)
  | executeProgram => exact done (exec_executeProgram_dropped fits latched dropping)
  | _ => exact reaches.elim

end

/-! ### Going on -/

/-- Clearing the error of a module with nothing in flight leaves the module as it is but for the error, after
one look at the clock. -/
theorem exec_clearCommandError_of_idle (connected : s.transport.connected = true)
    (fits : s.transport.ErrorFits) (free : s.transport.stuckBusy = false)
    (idle : s.transport.busyLeft = 0) :
    clearCommandError.exec s =
      (.ok (), { s with transport := { s.transport with cmderr := 0 }, timer := s.timer.looked }) := by
  have cleared := SimulatedModule.writeBus_cleared fits
  have still : (s.withTransport { s.transport with cmderr := 0 }).transport.busyLeft = 0 := idle
  have drains := drainsInTime_of_idle still
  rw [← cleared] at drains
  rw [exec_clearCommandError connected fits free drains, cleared, if_pos rfl, polled_of_idle still]
  rfl

/-- **A write of a register where no error is latched**: the value is stored, or a command has failed and
the registers are as they were. -/
theorem ends_writeRegister (connected : s.transport.connected = true) (ready : s.transport.Ready)
    (name : String) (value : Value) (width : Option TransferWidth) :
    Ends
      (fun _ t => ∃ place, s.locate name width = .ok place ∧
        t.transport.registers = s.transport.registers.set place.register.number value)
      (fun e t => ∀ error, e = .command error → t.transport.registers = s.transport.registers)
      ((writeRegister name value width).exec s) := by
  cases refused : s.placeRefusal? name value width with
  | some e =>
    rw [writeRegister, Action.exec_bind_error (exec_locateFor_refused refused)]
    exact fun _ _ => rfl
  | none =>
    obtain ⟨place, placed⟩ := exists_exec_locateFor refused
    obtain ⟨located, value_fits⟩ := locateFor_eq_ok placed
    have whole : value &&& Value.lowMask place.width.bits = value :=
      Value.and_lowMask_of_fits value_fits (bits_le_of_locate located) place.width.bits_le
    have moved := ends_command (s := s.withTransport (s.transport.holding value place.width.slots))
      (.inl rfl) ⟨ready.idle, ready.free, ready.clear⟩ connected
      (AccessRegister.move place.register.number place.width true)
    rw [writeRegister, Action.exec_bind_ok placed, Action.exec_bind_ok (Action.exec_log _ _ _ s),
      Action.exec_bind_ok (exec_forM_writeDmi connected _ _ _),
      SimulatedModule.foldl_writeBus_data s.transport value place.width.slots_le]
    by_cases unknown : place.register.number ∈ s.transport.unimplemented
    · have raised := SimulatedModule.execute_move_unimplemented
        (ready.holding value place.width.slots) unknown place.width true
      have error := congrArg SimulatedModule.cmderr raised
      have kept := congrArg SimulatedModule.registers raised
      refine moved.mono (fun _ t ended => ?_) fun e t failed => ?_
      · exact absurd (error.symm.trans ended.1) (by decide : ¬ (3 : Word) = 0)
      · rintro _ rfl
        rcases failed with ⟨-, -, timer, rfl⟩ | ⟨limit, late⟩
        · exact kept
        · cases late
    · have stored := SimulatedModule.execute_write ready unknown value place.width
      rw [whole] at stored
      have error := congrArg SimulatedModule.cmderr stored
      have registers := congrArg SimulatedModule.registers stored
      refine moved.mono (fun _ t ended => ?_) fun e t failed => ?_
      · obtain ⟨-, timer, rfl⟩ := ended
        exact ⟨place, located, registers⟩
      · rintro _ rfl
        rcases failed with ⟨raised, -⟩ | ⟨limit, late⟩
        · exact absurd (error.trans ready.clear) raised
        · cases late

/-! ### Both together -/

/-- What becomes of operations on a module that has an error latched. -/
structure CommandsDropped (s : Session SimulatedModule) (ops : List Operation) : Prop where
  /-- Every one that comes to ask for a command reports the error that was latched at the start. -/
  reported : ∀ before op after, ops = before ++ op :: after →
    let t := ((performEach before).exec s).2
    op.ReachesCommand t →
      (op.perform.exec t).1 = .error (.command (.ofCode s.transport.cmderr.toNat))
  registers : ((performEach ops).exec s).2.transport.registers = s.transport.registers
  registerWrites : ((performEach ops).exec s).2.transport.registerWrites = s.transport.registerWrites
  programsRun : ((performEach ops).exec s).2.transport.programsRun = s.transport.programsRun
  latched : ((performEach ops).exec s).2.transport.cmderr = s.transport.cmderr
  /-- Clearing the error then succeeds, and leaves everything but the error as it is, after one look at the
  clock: what follows runs as on the same module with no error latched. -/
  cleared : let t := ((performEach ops).exec s).2
    clearCommandError.exec t =
      (.ok (), { t with transport := { t.transport with cmderr := 0 }, timer := t.timer.looked })

/-- What becomes of the registers in a write of one of them: if a command fails they are as they were, and
if the write succeeds the value is stored and the others are as they were. -/
structure StoresOrKeeps (s : Session SimulatedModule) (name : String) (value : Value)
    (width : Option TransferWidth) : Prop where
  keeps : ∀ error t, (writeRegister name value width).exec s = (.error (.command error), t) →
    t.transport.registers = s.transport.registers
  stores : ∀ t, (writeRegister name value width).exec s = (.ok (), t) →
    ∃ place, s.locate name width = .ok place ∧ ∀ number, t.transport.registers.get number =
      if place.register.number = number then value else s.transport.registers.get number

/-- **Errors stick, and harm nothing.**  A connected module has nothing in flight and is not stuck; it may
look busy for any number of reads after each command, and the clock may go as it likes.  While it has an error
latched, any sequence of operations that leaves errors to others has its commands dropped, each with that very
error, and the hart keeps its registers and runs no program; once the error is cleared the module goes on as
if there had been none.  While it has none latched, a write of a register that reports the error of a command
has changed no register, and one that succeeds has stored the value. -/
theorem errors_stick_and_harm_nothing {s : Session SimulatedModule}
    (connected : s.transport.connected = true) (idle : s.transport.busyLeft = 0)
    (free : s.transport.stuckBusy = false) (fits : s.transport.ErrorFits) :
    (s.transport.cmderr ≠ 0 → ∀ ops : List Operation, (∀ op ∈ ops, op.LeavesErrors) →
      CommandsDropped s ops) ∧
    (s.transport.cmderr = 0 → ∀ name value width, StoresOrKeeps s name value width) := by
  constructor
  · intro latched ops leaves
    have start : Dropping s.transport s := ⟨connected, idle, free, rfl, ⟨rfl, rfl, rfl⟩⟩
    have after := start.performEach fits latched leaves
    refine ⟨?_, after.hart.registers, after.hart.registerWrites, after.hart.programsRun, after.error, ?_⟩
    · intro before op later split t reaches
      have there : Dropping s.transport t :=
        start.performEach fits latched fun op' mem => leaves op' (split ▸ by simp [mem])
      exact reports_perform fits latched there reaches
    · exact exec_clearCommandError_of_idle after.connected
        (SimulatedModule.errorFits_of_cmderr fits after.error) after.free after.idle
  · intro clear name value width
    have ended := ends_writeRegister connected ⟨clear, idle, free⟩ name value width
    refine ⟨fun error t ran => ?_, fun t ran => ?_⟩
    · rw [ran] at ended
      exact ended error rfl
    · rw [ran] at ended
      obtain ⟨place, located, stored⟩ := ended
      refine ⟨place, located, fun number => ?_⟩
      rw [stored, RegisterFile.get_set]

/-- An exception is latched, and a hart is written to, stepped and made to run a program; and a write where
nothing is latched. -/
theorem errors_stick_and_harm_nothing_after_exception :
    let session (m : SimulatedModule) : Session SimulatedModule :=
      .fresh m {} { clock := .steady 1 (by decide) }
    let latched := session { connected := true, busyReads := 2, cmderr := 3 }
    let clear := session { connected := true, busyReads := 2 }
    let ops : List Operation := [.writeRegister "sp" 7 none, .step, .executeProgram]
    (latched.transport.connected = true ∧ latched.transport.busyLeft = 0 ∧
      latched.transport.stuckBusy = false ∧ latched.transport.ErrorFits ∧
      latched.transport.cmderr ≠ 0 ∧ ∀ op ∈ ops, op.LeavesErrors) ∧
    CommandsDropped latched ops ∧
    (clear.transport.connected = true ∧ clear.transport.busyLeft = 0 ∧
      clear.transport.stuckBusy = false ∧ clear.transport.ErrorFits ∧ clear.transport.cmderr = 0) ∧
    StoresOrKeeps clear "sp" 7 none := by
  intro session latched clear ops
  have fits : latched.transport.ErrorFits := by decide
  have fits' : clear.transport.ErrorFits := by decide
  have raised : latched.transport.cmderr ≠ 0 := by decide
  have leaves : ∀ op ∈ ops, op.LeavesErrors := by
    simp [ops, Operation.LeavesErrors]
  exact ⟨⟨rfl, rfl, rfl, fits, raised, leaves⟩,
    (errors_stick_and_harm_nothing rfl rfl rfl fits).1 raised ops leaves, ⟨rfl, rfl, rfl, fits', rfl⟩,
    (errors_stick_and_harm_nothing rfl rfl rfl fits').2 rfl "sp" 7 none⟩

end Session

end HartDebug
