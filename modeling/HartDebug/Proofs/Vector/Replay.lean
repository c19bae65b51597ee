import HartDebug.Proofs.Vector.Mirroring

/-!
# Replay agrees with live execution

Operations run on a live module and the same operations recorded and replayed on it leave the module in
the same state, and both get through or neither does.

* `mirroring_perform` — **every operation that can be recorded** replays as it runs live;
* `mirroring_performAll` — every sequence of them, by induction on the sequence;
* `replay_agrees_with_live` — **the recorded script replays as the operations run live**.
-/

namespace HartDebug

open VectorEmitter Session

/-! ## Hart registers and programs -/

theorem mirroring_locateFor (name : String) (value : Value) (width : Option TransferWidth) :
    Mirroring (locateFor name value width) (locateFor name value width) := by
  refine .get_bind fun s t alike => ?_
  have same : t.locate name width = s.locate name width := by
    rw [locate, locate, alike.width]
  rw [same]
  refine (Mirroring.ofExcept _).bind fun place => ?_
  split
  · exact .pure place
  · exact (Mirroring.log _ _ _).bind fun _ => .throw _

theorem mirroring_moveRegister (place : Place) (isWrite : Bool) :
    Mirroring (moveRegister place isWrite) (moveRegister place isWrite) :=
  (mirroring_writeDmi (by decide) _).bind fun _ => mirroring_waitForCommand

theorem mirroring_writeRegister (name : String) (value : Value) (width : Option TransferWidth) :
    Mirroring (writeRegister name value width) (writeRegister name value width) := by
  refine (mirroring_locateFor name value width).bind fun place => ?_
  refine (Mirroring.log _ _ _).bind fun _ => ?_
  refine (Mirroring.forM fun slot mem => ?_).bind fun _ => mirroring_moveRegister place true
  have below := List.mem_range.1 mem
  have most := place.width.slots_le
  exact mirroring_writeDmi (BusAddress.toNat_data (by omega)) _

theorem mirroring_expectRegister (name : String) (expected : Value) (width : Option TransferWidth) :
    Mirroring (expectRegister name expected width) (expectRegister name expected width) := by
  refine (mirroring_locateFor name expected width).bind fun place => ?_
  refine (mirroring_moveRegister place false).bind fun _ => ?_
  refine Mirroring.forM fun slot mem => ?_
  have below := List.mem_range.1 mem
  have most := place.width.slots_le
  exact mirroring_expectDmi (BusAddress.toNat_data (by omega)) _ _ _

/-- A program is loaded word by word; the bound keeps every address within the seven bits of a scan. -/
theorem mirroring_loadFrom :
    ∀ (i : Nat) (program : List Word), i + program.length ≤ 16 →
      Mirroring (loadFrom i program) (loadFrom i program)
  | _, [], _ => .pure ()
  | i, instruction :: rest, h => by
    rw [List.length_cons] at h
    refine (Mirroring.log _ _ _).bind fun _ => ?_
    refine (mirroring_writeDmi (BusAddress.toNat_progbuf (by omega)) instruction).bind fun _ => ?_
    exact mirroring_loadFrom (i + 1) rest (by omega)

theorem mirroring_loadProgram (program : List Word) :
    Mirroring (loadProgram program) (loadProgram program) := by
  refine .get_bind fun s t alike => ?_
  have same : t.programLimit = s.programLimit := by
    rw [programLimit, programLimit, alike.progbufCapacity]
  have limit : s.programLimit ≤ 16 := Nat.min_le_right _ _
  rw [same]
  dsimp only
  split
  · exact (Mirroring.log _ _ _).bind fun _ => .throw _
  · exact (Mirroring.log _ _ _).bind fun _ => mirroring_loadFrom 0 program (by omega)

/-! ## Run control -/

theorem mirroring_request (f : BitField) : Mirroring (request f) (request f) :=
  mirroring_writeDmi (by decide) _

theorem mirroring_withdraw : Mirroring withdraw withdraw :=
  mirroring_writeDmi (by decide) _

theorem mirroring_activateDm : Mirroring activateDm activateDm :=
  (Mirroring.log _ _ _).bind fun _ => (mirroring_writeDmi (by decide) _).bind fun _ =>
    mirroring_expectDmi (by decide) _ _ _

theorem mirroring_deactivateDm : Mirroring deactivateDm deactivateDm :=
  (Mirroring.log _ _ _).bind fun _ => (mirroring_writeDmi (by decide) _).bind fun _ =>
    mirroring_expectDmi (by decide) _ _ _

theorem mirroring_halt : Mirroring halt halt :=
  (Mirroring.log _ _ _).bind fun _ => (mirroring_request _).bind fun _ =>
    (mirroring_expectDmi (by decide) _ _ _).bind fun _ => mirroring_withdraw

theorem mirroring_resume : Mirroring resume resume :=
  (Mirroring.log _ _ _).bind fun _ => (mirroring_request _).bind fun _ =>
    mirroring_expectDmi (by decide) _ _ _

theorem mirroring_resetHart : Mirroring resetHart resetHart := by
  refine (Mirroring.log _ _ _).bind fun _ => (mirroring_request _).bind fun _ => ?_
  refine mirroring_withdraw.bind fun _ => (mirroring_expectDmi (by decide) _ _ _).bind fun _ => ?_
  refine (mirroring_request _).bind fun _ => .modify (fun _ => rfl) (fun _ => rfl) fun s t alike => ?_
  exact ⟨alike.config, alike.width, alike.progbufCapacity⟩

/-! ## Sequences of operations -/

/-- The operations that a recording can stand in for: those that read nothing back. -/
def Operation.Recordable : Operation → Prop
  | .expectDmi address _ _ _ => address.toNat < 0x80
  | .activateDm | .deactivateDm | .resetDm | .resetTap | .expectIdcode _ => True
  | .writeRegister _ _ _ | .expectRegister _ _ _ | .waitForCommand | .clearCommandError => True
  | .halt | .resume | .resetHart | .setHaltOnReset | .clearHaltOnReset | .loadProgram _ => True
  | _ => False

instance (op : Operation) : Decidable op.Recordable := by
  cases op <;> unfold Operation.Recordable <;> infer_instance

open Operation (Reply)

/-- The simulation of an operation that answers nothing. -/
theorem Mirroring.done {x : Action DebugError (Session SimulatedModule) Unit}
    {y : Action DebugError (Session VectorEmitter) Unit} (h : Mirroring x y) :
    Mirroring (do x; Pure.pure Reply.done) (do y; Pure.pure Reply.done) :=
  h.bind fun _ => .pure Reply.done

/-- **Every operation that can be recorded** replays as it runs live. -/
theorem mirroring_perform {op : Operation} (h : op.Recordable) :
    Mirroring (op.perform (τ := SimulatedModule)) (op.perform (τ := VectorEmitter)) := by
  cases op with
  | expectDmi address expected mask failure => exact (mirroring_expectDmi h expected mask failure).done
  | activateDm => exact mirroring_activateDm.done
  | deactivateDm => exact mirroring_deactivateDm.done
  | resetDm => exact (mirroring_deactivateDm.bind fun _ => mirroring_activateDm).done
  | resetTap => exact mirroring_resetTap.done
  | expectIdcode expected => exact (mirroring_expectIdcode expected).done
  | writeRegister name value width => exact (mirroring_writeRegister name value width).done
  | expectRegister name expected width => exact (mirroring_expectRegister name expected width).done
  | waitForCommand => exact mirroring_waitForCommand.done
  | clearCommandError => exact mirroring_clearCommandError.done
  | halt => exact mirroring_halt.done
  | resume => exact mirroring_resume.done
  | resetHart => exact mirroring_resetHart.done
  | setHaltOnReset => exact ((Mirroring.log _ _ _).bind fun _ => mirroring_request _).done
  | clearHaltOnReset => exact ((Mirroring.log _ _ _).bind fun _ => mirroring_request _).done
  | loadProgram program => exact (mirroring_loadProgram program).done
  | _ => cases h

/-- **Every sequence of them**, by induction on the sequence. -/
theorem mirroring_performAll :
    ∀ {ops : List Operation}, (∀ op ∈ ops, op.Recordable) →
      Mirroring (Operation.performAll (τ := SimulatedModule) ops)
        (Operation.performAll (τ := VectorEmitter) ops)
  | [], _ => .pure []
  | op :: rest, h => by
    refine (mirroring_perform (h op List.mem_cons_self)).bind fun reply => ?_
    exact (mirroring_performAll fun op' mem => h op' (List.mem_cons_of_mem op mem)).bind fun others =>
      .pure (reply :: others)

/-- Beginning a session: a module that is connected already stays as it is. -/
theorem mirroring_start : Mirroring start start where
  follows := by
    intro p s t h
    have connected : { s.transport with connected := true } = s.transport := by
      rw [← h.calm.connected]
    have live : start.exec s = (.ok (), s.withTransport s.transport) := by
      show (Except.ok (), s.withTransport { s.transport with connected := true }) = _
      rw [connected]
    rw [live]
    exact .inl ⟨rfl, h⟩
  grows t := .refl t.transport

/-- Begin a session and do operations up to the first that fails. -/
def Session.begin {τ : Type} [Transport τ] (ops : List Operation) :
    Action DebugError (Session τ) (List Reply) := do
  start
  Operation.performAll ops

/-- **The recorded script replays as the operations run live.**  Operations run on a module up to their
first error; recorded up to their first error, the recording is replayed on the same module up to the first
mismatch.  The module ends in the same state, and the live run gets through just if the recording does and
the replay passes. -/
theorem replay_agrees_with_live {ops : List Operation} (recordable : ∀ op ∈ ops, op.Recordable)
    {m : SimulatedModule} (calm : m.Calm) (config : SessionConfig) (timer timer' : Timer) (disk : Disk) :
    let live := (Session.begin ops).exec (.fresh m config timer)
    let recorded := (Session.begin ops).exec (.fresh (VectorEmitter.forConfig config disk) config timer')
    ∃ passed port,
      ScanPort.replay recorded.2.transport.artifact { module := m } = some (passed, port) ∧
      port.module = live.2.transport ∧
      ((∃ replies, live.1 = .ok replies) ↔ (∃ replies, recorded.1 = .ok replies) ∧ passed = true) ∧
      (passed = true → live.1 = recorded.1) := by
  intro live recorded
  have initial : Mirrors { module := m } (.fresh m config timer)
      (.fresh (VectorEmitter.forConfig config disk) config timer') :=
    ⟨⟨rfl, rfl, rfl⟩, calm, fun d mem => absurd mem List.not_mem_nil, 0, rfl⟩
  have simulated : Mirroring (Session.begin (τ := SimulatedModule) ops)
      (Session.begin (τ := VectorEmitter) ops) :=
    mirroring_start.bind fun _ => mirroring_performAll recordable
  have followed : Follows { module := m } live recorded := simulated.follows initial
  have read : ∀ {passed port}, recorded.2.transport.OneLine →
      ScanPort.play recorded.2.transport.steps { module := m } = (passed, port) →
      ScanPort.replay recorded.2.transport.artifact { module := m } = some (passed, port) := by
    intro passed port lines played
    rw [ScanPort.replay, artifact, Script.read_script lines, Option.map_some]
    exact congrArg some played
  rcases followed with ⟨same, mirrors⟩ | ⟨⟨e, failed⟩, breaks⟩
  · obtain ⟨answer, played⟩ := mirrors.plays.played
    refine ⟨true, _, read mirrors.plays.lines played, rfl, ?_, fun _ => same.symm⟩
    rw [same]
    exact ⟨fun through => ⟨through, rfl⟩, fun through => through.1⟩
  · obtain ⟨q, broken, behind⟩ := breaks.played
    refine ⟨false, q, read breaks.lines broken, behind, ?_, fun impossible => by cases impossible⟩
    constructor
    · rintro ⟨replies, through⟩
      rw [failed] at through
      cases through
    · rintro ⟨-, impossible⟩
      cases impossible

/-- A session that resets the port, identifies it and halts the hart. -/
theorem replay_agrees_with_live_at_halt :
    let ops : List Operation := [.resetTap, .expectIdcode 0x1002ac05, .activateDm, .halt]
    let m : SimulatedModule := { connected := true }
    let timer : Timer := { clock := .steady 1 (by decide) }
    let live := (Session.begin ops).exec (.fresh m {} timer)
    let recorded := (Session.begin ops).exec (.fresh (VectorEmitter.forConfig {} {}) {} timer)
    (∀ op ∈ ops, op.Recordable) ∧ m.Calm ∧
      ∃ passed port,
        ScanPort.replay recorded.2.transport.artifact { module := m } = some (passed, port) ∧
        port.module = live.2.transport ∧
        ((∃ replies, live.1 = .ok replies) ↔ (∃ replies, recorded.1 = .ok replies) ∧ passed = true) ∧
        (passed = true → live.1 = recorded.1) := by
  intro ops m timer
  have recordable : ∀ op ∈ ops, op.Recordable := by decide
  have calm : m.Calm := ⟨rfl, rfl, rfl, rfl, by decide⟩
  exact ⟨recordable, calm, replay_agrees_with_live recordable calm {} timer timer {}⟩

end HartDebug
