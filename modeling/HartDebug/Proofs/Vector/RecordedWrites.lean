import HartDebug.Proofs.Effects
import HartDebug.Proofs.Session.Places
import HartDebug.Proofs.Target.Commands
import HartDebug.Proofs.Vector.Recording

/-!
# The register writes of a recording

Which hart registers a recorded script writes, and with what: the script is played, whatever comes out, on
a module that has every register and takes every command, and the module's log is read.

* `ScanPort.drive` — a script played without regard to its comparisons;
* `Script.registerWrites?` — the writes that a script makes;
* `VectorEmitter.Tracks` — a recording that knows which instruction its script leaves selected;
* `Quiet` — an action that records no register write and leaves the shadow of `dcsr` alone;
* `quiet_waitForCommand`, `quiet_loadProgram`, … — **what writes no register**;
* `exec_writeRegister_recording` — **what a register write records**.
-/

namespace HartDebug

/-! ## Scripts played without comparing -/

namespace ScanPort

/-- Do what the lines of a script say, whatever comes out. -/
def drive (steps : List PortStep) (p : ScanPort) : ScanPort :=
  steps.foldl (fun p line => (p.step line).2) p

theorem drive_append (first second : List PortStep) (p : ScanPort) :
    drive (first ++ second) p = drive second (drive first p) := by
  rw [drive, drive, drive, List.foldl_append]

theorem drive_cons (line : PortStep) (rest : List PortStep) (p : ScanPort) :
    drive (line :: rest) p = drive rest (p.step line).2 := rfl

/-- A port with a module that has every register and takes every command. -/
def healthy : ScanPort :=
  { module := {} }

theorem healthy_request {p : ScanPort} (h : p.module.Healthy) (bits : Nat) :
    (p.request bits).module.Healthy := by
  rw [request]
  split
  · show (p.module.readBus _).2.Healthy
    rw [h.readBus]
    exact h
  · split
    · exact h.writeBus _ _
    · exact h

/-- **Whatever a script says**, the module goes on taking commands. -/
theorem healthy_step {p : ScanPort} (h : p.module.Healthy) (line : PortStep) :
    (p.step line).2.module.Healthy := by
  cases line with
  | scanInstruction scan => exact h
  | scanData scan =>
    show (p.update _).module.Healthy
    rw [update]
    split
    · rw [SimulatedModule.writeTransport]
      split
      · exact ⟨⟨h.clear, h.idle, h.free⟩, h.quick, h.complete⟩
      · exact h
    · exact healthy_request h _
    · exact h
  | reset => exact ⟨⟨h.clear, h.idle, h.free⟩, h.quick, h.complete⟩
  | idle => exact h
  | runTest cycles => exact h

theorem healthy_drive {p : ScanPort} (h : p.module.Healthy) (steps : List PortStep) :
    (drive steps p).module.Healthy := by
  induction steps generalizing p with
  | nil => exact h
  | cons line rest ih => exact ih (healthy_step h line)

/-- A line of a script adds to the log of register writes and removes nothing from it. -/
theorem registerWrites_step (p : ScanPort) (line : PortStep) :
    ∃ more, (p.step line).2.module.registerWrites = p.module.registerWrites ++ more := by
  cases line with
  | scanInstruction scan => exact ⟨[], (List.append_nil _).symm⟩
  | scanData scan =>
    show ∃ more, (p.update _).module.registerWrites = _
    rw [update]
    split
    · rw [SimulatedModule.writeTransport]
      split <;> exact ⟨[], (List.append_nil _).symm⟩
    · rw [request]
      split
      · exact ⟨[], by
          rw [List.append_nil]
          exact SimulatedModule.registerWrites_readBus p.module _⟩
      · split
        · exact SimulatedModule.registerWrites_writeBus p.module _ _
        · exact ⟨[], (List.append_nil _).symm⟩
    · exact ⟨[], (List.append_nil _).symm⟩
  | reset => exact ⟨[], (List.append_nil _).symm⟩
  | idle => exact ⟨[], (List.append_nil _).symm⟩
  | runTest cycles => exact ⟨[], (List.append_nil _).symm⟩

theorem registerWrites_drive (p : ScanPort) (steps : List PortStep) :
    ∃ more, (drive steps p).module.registerWrites = p.module.registerWrites ++ more := by
  induction steps generalizing p with
  | nil => exact ⟨[], (List.append_nil _).symm⟩
  | cons line rest ih =>
    obtain ⟨first, now⟩ := registerWrites_step p line
    obtain ⟨second, later⟩ := ih (p.step line).2
    exact ⟨first ++ second, by rw [drive_cons, later, now, List.append_assoc]⟩

end ScanPort

/-- The writes of hart registers that a script makes, in order, if it can be read. -/
def Script.registerWrites? (script : String) : Option (List (RegisterNumber × Value)) :=
  (Script.read script).map fun steps => (ScanPort.drive steps .healthy).module.registerWrites

/-! ## Recordings that are tracked -/

namespace VectorEmitter

/-- The port after the recording so far. -/
def port (e : VectorEmitter) : ScanPort :=
  ScanPort.drive e.steps .healthy

theorem healthy_port (e : VectorEmitter) : e.port.module.Healthy :=
  ScanPort.healthy_drive ⟨⟨rfl, rfl, rfl⟩, rfl, rfl⟩ e.steps

/-- The recording can be read back, and knows which instruction it leaves selected. -/
structure Tracks (e : VectorEmitter) : Prop where
  lines : e.OneLine
  selected : e.port.selected = some e.selected

/-- **The artifact makes the writes** that its directives stand for. -/
theorem Tracks.registerWrites? {e : VectorEmitter} (h : e.Tracks) :
    Script.registerWrites? e.artifact = some e.port.module.registerWrites := by
  rw [Script.registerWrites?, artifact, Script.read_script h.lines, Option.map_some]
  rfl

theorem port_adding (e : VectorEmitter) (added : List Directive) (i : Instruction) :
    (e.adding added i).port = ScanPort.drive (added.filterMap Directive.portStep?) e.port := by
  rw [port, steps_adding, ScanPort.drive_append, port]

theorem port_selecting {e : VectorEmitter} (h : e.Tracks) (i : Instruction) (added : List Directive) :
    (e.adding (e.selecting i ++ added) i).port =
      ScanPort.drive (added.filterMap Directive.portStep?) { e.port with selected := some i } := by
  rw [port_adding, List.filterMap_append, ScanPort.drive_append, portSteps_selecting, selectSteps]
  split
  · next same =>
    have here : { e.port with selected := some i } = e.port := by rw [← same, ← h.selected]
    rw [here]
    rfl
  · rw [ScanPort.drive_cons, ScanPort.step_select]
    rfl

/-- A shift of any value keeps the instruction that is selected. -/
theorem selected_shift (p : ScanPort) (i : Instruction) (value : BitVec 64)
    (expected : Option (Nat × Nat)) : (p.step (ScanPort.shiftStep i value expected)).2.selected =
      p.selected := by
  show (p.update _).selected = p.selected
  rw [ScanPort.update]
  split
  · rfl
  · rw [ScanPort.request]
    split
    · rfl
    · split <;> rfl
  · rfl

variable {e : VectorEmitter}

/-- Any shift leaves a tracked recording tracked. -/
theorem Tracks.shift (h : e.Tracks) (i : Instruction) (value : BitVec 64) :
    (e.adding (e.selecting i ++ [.shift i value]) i).Tracks where
  lines := (extends_selecting e i (by simp [Directive.shift, Directive.IsOneLine])).oneLine h.lines
  selected := by
    rw [port_selecting h, List.filterMap_cons_some (portStep?_shift _ _), ScanPort.drive_cons]
    exact selected_shift _ i value none

theorem port_write (h : e.Tracks) {address : BusAddress} (ha : address.toNat < 0x80) (data : Word) :
    (e.writing address data).port =
      { e.port with selected := some .dmi, module := e.port.module.writeBus address data } := by
  rw [writing, port_selecting h, List.filterMap_cons_some (portStep?_shift _ _), ScanPort.drive_cons,
    ScanPort.step_write rfl ha]
  rfl

/-- A scan whose operation is not a write writes no register. -/
theorem registerWrites_shift {p : ScanPort} {i : Instruction} (h : p.selected = some i)
    {value : BitVec 64} (reads : i = .dmi → value.toNat % 4 ≠ 2) (expected : Option (Nat × Nat)) :
    (p.step (ScanPort.shiftStep i value expected)).2.module.registerWrites =
      p.module.registerWrites := by
  rw [ScanPort.step_shift h, ScanPort.update, h]
  cases i with
  | idcode => rfl
  | dtmcs =>
    show (p.module.writeTransport _).registerWrites = _
    rw [SimulatedModule.writeTransport]
    split <;> rfl
  | dmi =>
    have other : value.toNat % 2 ^ Instruction.dmi.dataLength % 4 ≠ 2 := by
      rw [show Instruction.dmi.dataLength = 41 from rfl]
      have := reads rfl
      omega
    show (p.request _).module.registerWrites = _
    rw [ScanPort.request, if_neg other]
    split
    · exact SimulatedModule.registerWrites_readBus p.module _
    · rfl

theorem toNat_word_mod_four (r : BusRequest) (address : BusAddress) (data : Word) :
    (r.word address data).toNat % 4 = r.opcode.toNat := by
  have hr : r.opcode.toNat < 4 := by cases r <;> decide
  rw [ScanPort.toNat_word]
  omega

/-- A recording after an access: still tracked, and with the same register writes. -/
structure Silent (e e' : VectorEmitter) : Prop where
  tracks : e'.Tracks
  writes : e'.port.module.registerWrites = e.port.module.registerWrites

/-- An expectation writes no register, wherever it looks. -/
theorem silent_expecting (h : e.Tracks) (address : BusAddress) (expected mask : Word) :
    Silent e (e.expecting address expected mask) := by
  have reads : (BusRequest.read.word address 0).toNat % 4 ≠ 2 := by
    rw [toNat_word_mod_four]
    decide
  have nothing : (BusRequest.nothing.word 0 0).toNat % 4 ≠ 2 := by
    rw [toNat_word_mod_four]
    decide
  have port : (e.expecting address expected mask).port =
      ((({ e.port with selected := some .dmi } : ScanPort).step
        (ScanPort.shiftStep .dmi (BusRequest.read.word address 0) none)).2.step
          (ScanPort.expectStep expected mask)).2 := by
    rw [expecting, port_selecting h, portSteps_expectation]
    rfl
  refine ⟨⟨(extends_expect e address expected mask).oneLine h.lines, ?_⟩, ?_⟩
  · rw [port, ScanPort.expectStep, selected_shift, selected_shift]
    rfl
  · rw [port, ScanPort.expectStep, registerWrites_shift (i := .dmi) _ fun _ => nothing,
      registerWrites_shift (i := .dmi) rfl fun _ => reads]
    rw [selected_shift]

theorem silent_expectingIdcode (h : e.Tracks) (expected : Word) :
    Silent e (e.expectingIdcode expected) := by
  have port : (e.expectingIdcode expected).port =
      (({ e.port with selected := some .idcode } : ScanPort).step
        (ScanPort.expectIdcodeStep expected)).2 := by
    rw [expectingIdcode, port_selecting h, List.filterMap_cons_some (portStep?_expectIdcode _),
      ScanPort.drive_cons]
    rfl
  refine ⟨⟨(extends_expectIdcode e expected).oneLine h.lines, ?_⟩, ?_⟩
  · rw [port, ScanPort.expectIdcodeStep, selected_shift]
    rfl
  · rw [port, ScanPort.expectIdcodeStep,
      registerWrites_shift (i := .idcode) rfl fun impossible => by cases impossible]

/-- A write to the register of the debug transport writes no hart register. -/
theorem silent_writeDtmcs (h : e.Tracks) (value : Word) :
    Silent e (e.writingDtmcs value) := by
  refine ⟨h.shift .dtmcs _, ?_⟩
  rw [writingDtmcs, port_selecting h, List.filterMap_cons_some (portStep?_shift _ _), ScanPort.drive_cons]
  exact registerWrites_shift rfl (fun impossible => by cases impossible) none

/-- A write that the module takes without writing a hart register. -/
theorem silent_write (h : e.Tracks) {address : BusAddress} (ha : address.toNat < 0x80) {data : Word}
    (none : (e.port.module.writeBus address data).registerWrites = e.port.module.registerWrites) :
    Silent e (e.writing address data) := by
  refine ⟨h.shift .dmi _, ?_⟩
  rw [port_write h ha]
  exact none

theorem silent_resetTap (h : e.Tracks) : Silent e e.resetting :=
  ⟨⟨(extends_resetTap e).oneLine h.lines, by rw [resetting, port_adding]; rfl⟩,
    by rw [resetting, port_adding]; rfl⟩

theorem silent_idle (h : e.Tracks) (cycles : Nat) : Silent e (e.idling cycles) :=
  ⟨⟨(extends_idle e cycles).oneLine h.lines, by rw [idling, port_adding]; exact h.selected⟩,
    by rw [idling, port_adding]; rfl⟩

end VectorEmitter

/-! ## Actions that write no register -/

namespace Session

open VectorEmitter

/-- A session after an action that recorded no register write and left the shadow of `dcsr` alone. -/
def Quiet (t t' : Session VectorEmitter) : Prop :=
  t.transport.Tracks → Silent t.transport t'.transport ∧ t'.dcsrShadow = t.dcsrShadow

theorem quiet_travel : Action.IsTravel Quiet where
  refl t h := ⟨⟨h, rfl⟩, rfl⟩
  trans first second h := by
    obtain ⟨silent, shadow⟩ := first h
    obtain ⟨silent', shadow'⟩ := second silent.tracks
    exact ⟨⟨silent'.tracks, silent'.writes.trans silent.writes⟩, shadow'.trans shadow⟩

/-- A write to anything but `command`. -/
theorem quiet_writeDmi {address : BusAddress} (ha : address.toNat < 0x80)
    (other : address ≠ .command) (data : Word) : (writeDmi address data).Moves Quiet := by
  intro t h
  rw [exec_writeDmi_recording]
  exact ⟨silent_write h ha (SimulatedModule.registerWrites_writeBus_of_ne _ other data), rfl⟩

/-- A command that moves no register into the hart. -/
theorem quiet_command {w : Word} (none : ∀ m : SimulatedModule, m.Healthy →
    (m.execute w).registerWrites = m.registerWrites) : (writeDmi .command w).Moves Quiet := by
  intro t h
  rw [exec_writeDmi_recording]
  refine ⟨silent_write h (by decide) ?_, rfl⟩
  rw [SimulatedModule.writeBus_command]
  exact none _ t.transport.healthy_port

theorem quiet_readDmi (address : BusAddress) : (readDmi address).Moves Quiet :=
  fun _ h => ⟨⟨h, rfl⟩, rfl⟩

theorem quiet_expectDmi (address : BusAddress) (expected mask : Word) (failure : String) :
    (expectDmi address expected mask failure).Moves Quiet := by
  intro t h
  rw [exec_expectDmi_recording]
  exact ⟨silent_expecting h address expected mask, rfl⟩

theorem quiet_waitForCommand : waitForCommand.Moves Quiet := by
  intro t h
  rw [exec_waitForCommand_recording]
  have idled := silent_idle h t.config.settleCycles
  have asked := silent_expecting idled.tracks .abstractcs 0 Abstractcs.unfinished
  exact ⟨⟨asked.tracks, asked.writes.trans idled.writes⟩, rfl⟩

theorem quiet_clearCommandError : clearCommandError.Moves Quiet := by
  intro t h
  rw [exec_clearCommandError_recording]
  have wrote := silent_write h (show BusAddress.abstractcs.toNat < 0x80 by decide)
    (SimulatedModule.registerWrites_writeBus_of_ne _ (by decide) Abstractcs.cmderr.mask)
  have asked := silent_expecting wrote.tracks .abstractcs 0 Abstractcs.cmderr.mask
  exact ⟨⟨asked.tracks, asked.writes.trans wrote.writes⟩, rfl⟩

open Action.Moves

/-! ### Accesses and reads -/

/-- What fails without having recorded anything. -/
theorem quiet_fails {α : Type} {x : Action DebugError (Session VectorEmitter) α}
    (h : ∀ t, (x.exec t).2 = t) : x.Moves Quiet := by
  intro t
  rw [h]
  exact quiet_travel.refl t

theorem quiet_resetTap : resetTap.Moves Quiet := by
  intro t h
  rw [resetTap, exec_onTransport, exec_resetTap]
  exact ⟨silent_resetTap h, rfl⟩

theorem quiet_expectIdcode (expected : Word) : (expectIdcode expected).Moves Quiet := by
  intro t h
  rw [expectIdcode, Action.exec_bind_ok
    (by rw [exec_onTransport, VectorEmitter.exec_expectIdcode expected])]
  exact ⟨silent_expectingIdcode h expected, rfl⟩

theorem quiet_writeDtmcs (value : Word) :
    (onTransport (Bus.writeDtmcs value)).Moves Quiet := by
  intro t h
  rw [exec_onTransport, exec_writeDtmcs]
  exact ⟨silent_writeDtmcs h value, rfl⟩

theorem quiet_expectNoBusError (cleared : String) : (expectNoBusError cleared).Moves Quiet :=
  quiet_fails fun _ => rfl

theorem quiet_request (f : BitField) : (request f).Moves Quiet :=
  quiet_writeDmi (by decide) (by decide) _

theorem quiet_withdraw : withdraw.Moves Quiet :=
  quiet_writeDmi (by decide) (by decide) _

theorem quiet_activateDm : activateDm.Moves Quiet :=
  (log quiet_travel _ _ _).bind quiet_travel fun _ =>
    (quiet_writeDmi (by decide) (by decide) _).bind quiet_travel fun _ => quiet_expectDmi _ _ _ _

theorem quiet_deactivateDm : deactivateDm.Moves Quiet :=
  (log quiet_travel _ _ _).bind quiet_travel fun _ =>
    (quiet_writeDmi (by decide) (by decide) _).bind quiet_travel fun _ => quiet_expectDmi _ _ _ _

/-! ### Hart registers and programs -/

theorem quiet_locateFor (name : String) (value : Value) (width : Option TransferWidth) :
    (locateFor (τ := VectorEmitter) name value width).Moves Quiet := by
  refine (get quiet_travel).bind quiet_travel fun t => ?_
  refine (ofExcept quiet_travel _).bind quiet_travel fun place => ?_
  split
  · exact pure quiet_travel place
  · exact (log quiet_travel _ _ _).bind quiet_travel fun _ => throw quiet_travel _

/-- Reading a register into the operand registers. -/
theorem quiet_moveRegister (place : Place) : (moveRegister place false).Moves Quiet := by
  refine (quiet_command fun m h => ?_).bind quiet_travel fun _ => quiet_waitForCommand
  rw [SimulatedModule.execute_read h.toReady (by rw [h.complete]; exact List.not_mem_nil), h.started]
  rfl

theorem quiet_expectRegister (name : String) (expected : Value) (width : Option TransferWidth) :
    (expectRegister name expected width).Moves Quiet := by
  refine (quiet_locateFor name expected width).bind quiet_travel fun place => ?_
  refine (quiet_moveRegister place).bind quiet_travel fun _ => ?_
  exact forM quiet_travel fun slot _ => quiet_expectDmi _ _ _ _

/-- A recording cannot read a register back. -/
theorem quiet_readRegister (name : String) (width : Option TransferWidth) :
    (readRegister (τ := VectorEmitter) name width).Moves Quiet := by
  refine (get quiet_travel).bind quiet_travel fun t => ?_
  refine (ofExcept quiet_travel _).bind quiet_travel fun place => ?_
  refine quiet_fails fun t => ?_
  rw [Action.exec_bind_ok (Action.exec_get t), isLive_recording]
  rfl

theorem quiet_dumpNames (group : RegisterGroup) (width : Option TransferWidth) :
    ∀ names : List String, (dumpNames (τ := VectorEmitter) group width names).Moves Quiet
  | [] => pure quiet_travel []
  | name :: rest => by
    rw [dumpNames]
    refine (quiet_readRegister name width).attempt.bind quiet_travel fun outcome => ?_
    split
    · exact (quiet_dumpNames group width rest).bind quiet_travel fun others => pure quiet_travel _
    · exact (log quiet_travel _ _ _).bind quiet_travel fun _ =>
        quiet_clearCommandError.bind quiet_travel fun _ => pure quiet_travel _
    · exact throw quiet_travel _

theorem quiet_loadFrom :
    ∀ (i : Nat) (program : List Word), i + program.length ≤ 16 → (loadFrom i program).Moves Quiet
  | _, [], _ => pure quiet_travel ()
  | i, instruction :: rest, h => by
    rw [List.length_cons] at h
    refine (log quiet_travel _ _ _).bind quiet_travel fun _ => ?_
    refine (quiet_writeDmi ?_ ?_ instruction).bind quiet_travel fun _ => ?_
    · exact BusAddress.toNat_progbuf (by omega)
    · exact (BusAddress.progbuf_ne (by omega)).1
    · exact quiet_loadFrom (i + 1) rest (by omega)

theorem quiet_loadProgram (program : List Word) :
    (loadProgram (τ := VectorEmitter) program).Moves Quiet := by
  refine (get quiet_travel).bind quiet_travel fun t => ?_
  have limit : t.programLimit ≤ 16 := Nat.min_le_right _ _
  dsimp only
  split
  · exact (log quiet_travel _ _ _).bind quiet_travel fun _ => throw quiet_travel _
  · exact (log quiet_travel _ _ _).bind quiet_travel fun _ => quiet_loadFrom 0 program (by omega)

/-- Running the program buffer; what the program does to registers is its own matter. -/
theorem quiet_executeProgram : (executeProgram (τ := VectorEmitter)).Moves Quiet := by
  refine (log quiet_travel _ _ _).bind quiet_travel fun _ => ?_
  refine (quiet_command fun m h => ?_).bind quiet_travel fun _ => ?_
  · rw [SimulatedModule.execute_execute h.toReady, h.started]
  · intro t h
    rw [Action.exec_bind_ok (Action.exec_get t), isLive_recording, if_neg (by decide),
      Action.exec_bind_ok (Action.exec_get t), exec_idle_recording]
    exact ⟨silent_idle h _, rfl⟩

/-! ### Register writes -/

/-- The words of a value are recorded one after another. -/
theorem exec_forM_writeDmi_recording (value : Value) (slots : List Nat) (below : ∀ i ∈ slots, i < 4)
    {t : Session VectorEmitter} (h : t.transport.Tracks) :
    ∃ e : VectorEmitter, (slots.forM fun slot => writeDmi (.data slot) (value.word slot)).exec t =
        (.ok (), t.withTransport e) ∧ e.Tracks ∧
      e.port.module =
        slots.foldl (fun m slot => m.writeBus (.data slot) (value.word slot)) t.transport.port.module := by
  induction slots generalizing t with
  | nil => exact ⟨t.transport, rfl, h, rfl⟩
  | cons slot rest ih =>
    have ha := BusAddress.toNat_data (below slot List.mem_cons_self)
    have wrote : (t.transport.writing (.data slot) (value.word slot)).Tracks := h.shift .dmi _
    obtain ⟨e, ran, tracks, module⟩ :=
      ih (t := t.withTransport (t.transport.writing (.data slot) (value.word slot)))
        (fun i mem => below i (List.mem_cons_of_mem _ mem)) wrote
    refine ⟨e, ?_, tracks, ?_⟩
    · show (writeDmi (.data slot) (value.word slot) >>= fun _ =>
        rest.forM fun slot => writeDmi (.data slot) (value.word slot)).exec t = _
      rw [Action.exec_bind_ok (exec_writeDmi_recording t _ _), ran]
      rfl
    · rw [module, List.foldl_cons]
      show rest.foldl _ (t.transport.writing (.data slot) (value.word slot)).port.module = _
      rw [port_write h ha]

/-- **A register write records one write**, of the whole value, and changes nothing else that the session
remembers. -/
theorem exec_writeRegister_recording {t : Session VectorEmitter} (h : t.transport.Tracks)
    {name : String} {value : Value} {width : Option TransferWidth} {place : Place}
    (located : t.locate name width = .ok place) (fits : value.Fits place.bits) :
    ∃ e : VectorEmitter, (writeRegister name value width).exec t = (.ok (), t.withTransport e) ∧
      e.Tracks ∧ e.port.module.registerWrites =
        t.transport.port.module.registerWrites ++ [(place.register.number, value)] := by
  have slots : place.width.slots ≤ 4 := place.width.slots_le
  obtain ⟨loaded, ran, tracks, held⟩ := exec_forM_writeDmi_recording value
    (List.range place.width.slots) (fun i mem => by have := List.mem_range.1 mem; omega) h
  rw [SimulatedModule.foldl_writeBus_data _ _ slots] at held
  -- The command finds the value in the operand registers and stores all of it.
  let command := AccessRegister.move place.register.number place.width true
  have whole : value &&& Value.lowMask place.width.bits = value :=
    Value.and_lowMask_of_fits fits (bits_le_of_locate located) (by cases place.width <;> decide)
  have healthy := t.transport.healthy_port
  have stored := SimulatedModule.execute_write healthy.toReady
    (show place.register.number ∉ t.transport.port.module.unimplemented by
      rw [healthy.complete]
      exact List.not_mem_nil) value place.width
  have sent : (loaded.writing .command command).Tracks := tracks.shift .dmi _
  have written : (loaded.writing .command command).port.module.registerWrites =
      t.transport.port.module.registerWrites ++ [(place.register.number, value)] := by
    rw [port_write tracks (by decide)]
    show (loaded.port.module.writeBus .command command).registerWrites = _
    rw [SimulatedModule.writeBus_command, held, stored, whole]
    rfl
  -- Waiting for the command records no further write.
  obtain ⟨waited, -⟩ := quiet_waitForCommand (t.withTransport (loaded.writing .command command)) sent
  rw [exec_waitForCommand_recording] at waited
  refine ⟨_, ?_, waited.tracks, waited.writes.trans written⟩
  rw [writeRegister, Action.exec_bind_ok (exec_locateFor located fits),
    Action.exec_bind_ok (Action.exec_log _ _ _ t), Action.exec_bind_ok ran, moveRegister,
    Action.exec_bind_ok (exec_writeDmi_recording _ _ _), exec_waitForCommand_recording]
  rfl

end Session

end HartDebug
