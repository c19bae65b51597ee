import HartDebug.Proofs.Session.Polling
import HartDebug.Proofs.Session.Refinement
import HartDebug.Proofs.Wire.Requests
import HartDebug.Proofs.Wire.Wording

/-!
# Accesses made of commands

Every access to a module that an adapter stands before is a command or two.  Whatever the way in which a
session has its commands run: if each comes back as the bare wording of its output, then the accesses do
what those of the module itself do.

* `Runs` — a way of having commands run;
* `Over` — a session that stands, through an adapter, over a module;
* `Runs.simulates_write`, `simulates_read`, `simulates_writeDtmcs`, `simulates_readDtmcs`,
  `simulates_readIdcode`, `simulates_resetTap` — **each access does what that of the module does**.
-/

namespace HartDebug

open Action (Simulates)

namespace AdapterPort

/-- A request leaves the name of the port as it is. -/
theorem name_perform (p : AdapterPort) (request : PortRequest) : (p.perform request).2.name = p.name := by
  cases request with
  | shift value =>
    rw [perform]
    split
    · rfl
    · split <;> rfl
  | _ => rfl

/-- A scan of the debug transport captures its register and then writes it. -/
theorem perform_shift_dtmcs {p : AdapterPort} (selected : p.opcode = 0x10)
    (value : Word) :
    p.perform (.shift value) =
      (.number p.module.transportStatus, { p with module := p.module.writeTransport value }) := by
  rw [perform, if_pos selected]

/-- A scan of the identification captures it, and nothing is written. -/
theorem perform_shift_idcode {p : AdapterPort} (selected : p.opcode = 0x01)
    (value : Word) : p.perform (.shift value) = (.number p.module.idcode, p) := by
  rw [perform, if_neg (by rw [selected]; decide), if_pos selected]

end AdapterPort

/-- A register of the transport that is written with zero stays as it is. -/
theorem SimulatedModule.writeTransport_zero (m : SimulatedModule) : m.writeTransport 0 = m := by
  rw [writeTransport, if_neg (by decide)]

/-- An answer that does not look like a failure is passed on. -/
theorem Reply.exec_unlessFailed {σ : Type} {reply : String} (h : Reply.failed reply = false)
    (source : Source) (s : σ) :
    (Reply.unlessFailed source reply : Action DebugError σ String).exec s = (.ok reply, s) := by
  rw [Reply.unlessFailed, h]
  rfl

variable {τ : Type} {Ready : τ → AdapterPort → Prop} {run run' : String → Action DebugError τ String}

/-- Every command that the adapter understands is run and comes back as the bare wording, in some manner,
of its output. -/
def Runs (Ready : τ → AdapterPort → Prop) (run : String → Action DebugError τ String) : Prop :=
  ∀ {t p command request}, Ready t p → p.Understands command request →
    (p.perform request).1 ≠ .refusal →
      ∃ t' m, (run command).exec t = (.ok (String.ofList (Manner.bare m (p.perform request).1)), t') ∧
        Ready t' (p.perform request).2

/-- A session that is ready for its next command stands over a module that is connected. -/
def Over (Ready : τ → AdapterPort → Prop) (t : τ) (m : SimulatedModule) : Prop :=
  m.connected = true ∧ ∃ p, Ready t p ∧ p.module = m

namespace Runs

theorem simulates_write (runs : Runs Ready run) (source : Source) (address : BusAddress) (data : Word) :
    Simulates (Over Ready)
      (do
        let answer ← run s!"riscv dmi_write {Hex.text address.toNat} {Hex.text data.toNat}"
        discard (Reply.unlessFailed source answer))
      (Bus.write address data) := by
  refine .of_exec ?_
  rintro t m ⟨connected, p, ready, rfl⟩
  obtain ⟨t', manner, ran, ready'⟩ := runs ready (p.understands_write address data) (by nofun)
  have passed := Reply.exec_unlessFailed
    (manner.failed_bare (show Output.nothing ≠ .refusal by nofun)) source t'
  have kept := (p.module.setUpAlike_writeBus address data).connected
  refine ⟨.ok (), t', p.module.writeBus address data, ?_, Session.exec_writeBus connected address data,
    kept.trans connected, _, ready', rfl⟩
  rw [Action.exec_bind_ok ran]
  exact Action.exec_discard_ok passed

/-- What a read or a scan has printed is read as the number that it is. -/
theorem exec_word {x : Action DebugError τ String} {t t' : τ} {m : Manner} {value : Word}
    (ran : x.exec t = (.ok (String.ofList (m.bare (.number value))), t')) :
    (do
      let answer ← x
      Action.ofExcept (Reply.word answer)).exec t = (.ok value, t') := by
  rw [Action.exec_bind_ok ran, Action.exec_ofExcept]
  exact congrArg (·, t') (m.word_numeral value)

theorem simulates_read (runs : Runs Ready run) (source : Source) (address : BusAddress) :
    Simulates (Over Ready)
      (do
        let answer ← run s!"riscv dmi_read {Hex.text address.toNat}"
        let answer ← Reply.unlessFailed source answer
        Action.ofExcept (Reply.word answer))
      (Bus.read address) := by
  refine .of_exec ?_
  rintro t m ⟨connected, p, ready, rfl⟩
  obtain ⟨t', manner, ran, ready'⟩ := runs ready (p.understands_read address) (by nofun)
  have passed := Reply.exec_unlessFailed
    (manner.failed_bare (show Output.number (p.module.readBus address).1 ≠ .refusal by nofun)) source t'
  have kept := (p.module.setUpAlike_readBus address).connected
  refine ⟨.ok (p.module.readBus address).1, t', (p.module.readBus address).2, ?_,
    Session.exec_readBus connected address, kept.trans connected, _, ready', rfl⟩
  rw [Action.exec_bind_ok ran]
  exact exec_word passed

theorem simulates_resetTap (runs : Runs Ready run) :
    Simulates (Over Ready) (discard (run "pathmove RESET IDLE")) Bus.resetTap := by
  refine .of_exec ?_
  rintro t m ⟨connected, p, ready, rfl⟩
  obtain ⟨t', manner, ran, ready'⟩ := runs ready p.understands_reset (by nofun)
  exact ⟨.ok (), t', _, Action.exec_discard_ok ran, rfl, connected, _, ready', rfl⟩

/-! ### Scans -/

section Scans

variable (select : Runs Ready run) (shift : Runs Ready run') {tapName : τ → String}
  (named : ∀ {t p}, Ready t p → IsTapName (tapName t) ∧ p.name = Utf8.bytes (tapName t))

/-- Shift a word through the data register of an instruction, in two commands. -/
def scan (run run' : String → Action DebugError τ String) (tapName : τ → String) (i : Instruction)
    (value : Word) : Action DebugError τ String := do
  let tap := tapName (← get)
  discard (run (i.selectCommand tap))
  run' (i.shiftCommand tap value)

include select shift named

theorem exec_scan {t : τ} {p : AdapterPort} (ready : Ready t p) (i : Instruction)
    (length : i.dataLength = 32) (value : Word) {output : Output} {p' : AdapterPort}
    (performed : ({ p with opcode := i.opcode } : AdapterPort).perform (.shift value) = (output, p'))
    (answered : output ≠ .refusal) :
    ∃ t' m, (scan run run' tapName i value).exec t = (.ok (String.ofList (Manner.bare m output)), t') ∧
      Ready t' p' := by
  obtain ⟨tap_ok, here⟩ := named ready
  obtain ⟨t₁, m₁, ran₁, ready₁⟩ :=
    select ready (AdapterPort.understands_select tap_ok here i) (by nofun)
  have here₁ : (p.perform (.select i.opcode)).2.name = Utf8.bytes (tapName t) := here
  obtain ⟨t₂, m₂, ran₂, ready₂⟩ := shift ready₁ (AdapterPort.understands_shift tap_ok here₁ length value)
    (by rw [AdapterPort.perform, performed]; exact answered)
  rw [AdapterPort.perform, performed] at ran₂ ready₂
  refine ⟨t₂, m₂, ?_, ready₂⟩
  rw [scan, Action.exec_bind_ok (Action.exec_get t)]
  dsimp only
  rw [Action.exec_bind_ok (Action.exec_discard_ok ran₁)]
  exact ran₂

theorem simulates_writeDtmcs (value : Word) :
    Simulates (Over Ready) (discard (scan run run' tapName .dtmcs value)) (Bus.writeDtmcs value) := by
  refine .of_exec ?_
  rintro t m ⟨connected, p, ready, rfl⟩
  obtain ⟨t', manner, ran, ready'⟩ :=
    exec_scan select shift named ready .dtmcs rfl value (AdapterPort.perform_shift_dtmcs rfl value) (by nofun)
  have kept : (p.module.writeTransport value).connected = true := by
    rw [SimulatedModule.writeTransport]
    split
    · exact connected
    · exact connected
  exact ⟨.ok (), t', _, Action.exec_discard_ok ran, rfl, kept, _, ready', rfl⟩

theorem simulates_readDtmcs :
    Simulates (Over Ready)
      (do
        let answer ← scan run run' tapName .dtmcs 0
        Action.ofExcept (Reply.word answer))
      Bus.readDtmcs := by
  refine .of_exec ?_
  rintro t m ⟨connected, p, ready, rfl⟩
  obtain ⟨t', manner, ran, ready'⟩ :=
    exec_scan select shift named ready .dtmcs rfl 0 (AdapterPort.perform_shift_dtmcs rfl 0) (by nofun)
  rw [SimulatedModule.writeTransport_zero] at ready'
  exact ⟨.ok p.module.transportStatus, t', p.module, exec_word ran, rfl, connected, _, ready', rfl⟩

theorem simulates_readIdcode :
    Simulates (Over Ready)
      (do
        let answer ← scan run run' tapName .idcode 0
        Action.ofExcept (Reply.word answer))
      Bus.readIdcode := by
  refine .of_exec ?_
  rintro t m ⟨connected, p, ready, rfl⟩
  obtain ⟨t', manner, ran, ready'⟩ :=
    exec_scan select shift named ready .idcode rfl 0 (AdapterPort.perform_shift_idcode rfl 0) (by nofun)
  exact ⟨.ok p.module.idcode, t', p.module, exec_word ran, rfl, connected, _, ready', rfl⟩

end Scans

end Runs

end HartDebug
