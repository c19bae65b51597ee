import HartDebug.Target.Simulated

/-!
# What accesses to a debug module leave alone

A simulated module is set up before it is used: whether it is connected, for how long its commands look
busy, which registers it lacks, how it identifies itself.  No access to its bus changes any of that, and
only a running command changes for how many more reads it looks busy.

* `SimulatedModule.SetUpAlike` — two states of a module that was set up once;
* `setUpAlike_writeBus`, `setUpAlike_readBus` — **every access keeps the setup**;
* `busyLeft_writeBus`, `readBus_state_of_idle` — a module whose commands finish at once stays idle;
* `registerWrites_writeBus` — **the log of register writes only grows**, and by commands only.
-/

namespace HartDebug.SimulatedModule

/-- Two modules that were set up alike. -/
structure SetUpAlike (m m' : SimulatedModule) : Prop where
  connected : m'.connected = m.connected
  ignoresHalt : m'.ignoresHalt = m.ignoresHalt
  busyReads : m'.busyReads = m.busyReads
  stuckBusy : m'.stuckBusy = m.stuckBusy
  progbufsize : m'.progbufsize = m.progbufsize
  unimplemented : m'.unimplemented = m.unimplemented
  idcode : m'.idcode = m.idcode

namespace SetUpAlike

theorem refl (m : SimulatedModule) : SetUpAlike m m :=
  ⟨rfl, rfl, rfl, rfl, rfl, rfl, rfl⟩

theorem trans {a b c : SimulatedModule} (h : SetUpAlike a b) (h' : SetUpAlike b c) : SetUpAlike a c :=
  ⟨h'.1.trans h.1, h'.2.trans h.2, h'.3.trans h.3, h'.4.trans h.4, h'.5.trans h.5, h'.6.trans h.6,
    h'.7.trans h.7⟩

theorem ite {m a b : SimulatedModule} {c : Prop} [Decidable c] (ha : SetUpAlike m a)
    (hb : SetUpAlike m b) : SetUpAlike m (if c then a else b) := by
  split
  · exact ha
  · exact hb

end SetUpAlike

/-- A module that differs in its run control alone. -/
def OnlyRunControl (m m' : SimulatedModule) : Prop :=
  m' = { m with
    dmactive := m'.dmactive
    halted := m'.halted
    resumeAcknowledged := m'.resumeAcknowledged
    haveReset := m'.haveReset
    haltOnReset := m'.haltOnReset }

namespace OnlyRunControl

theorem trans {a b c : SimulatedModule} (h : OnlyRunControl a b) (h' : OnlyRunControl b c) :
    OnlyRunControl a c :=
  Eq.trans h' (by rw [h])

theorem ite {m a b : SimulatedModule} {c : Prop} [Decidable c] (ha : OnlyRunControl m a)
    (hb : OnlyRunControl m b) : OnlyRunControl m (if c then a else b) := by
  split
  · exact ha
  · exact hb

end OnlyRunControl

/-- **Control changes run control alone.**  It takes its requests one after another, and each of them
does. -/
theorem onlyRunControl_control (m : SimulatedModule) (w : Word) : OnlyRunControl m (m.control w) := by
  unfold control
  extract_lets active keeping letting reset acknowledged halted
  have h₁ : OnlyRunControl m active := rfl
  have h₂ : OnlyRunControl m keeping := .ite (h₁.trans rfl) h₁
  have h₃ : OnlyRunControl m letting := .ite (h₂.trans rfl) h₂
  have h₄ : OnlyRunControl m reset := .ite (h₃.trans rfl) h₃
  have h₅ : OnlyRunControl m acknowledged := .ite (h₄.trans rfl) h₄
  have h₆ : OnlyRunControl m halted := .ite (h₅.trans rfl) h₅
  exact .ite (h₆.trans rfl) h₆

theorem setUpAlike_control (m : SimulatedModule) (w : Word) : SetUpAlike m (m.control w) := by
  rw [onlyRunControl_control m w]
  constructor <;> rfl

@[simp] theorem cmderr_control (m : SimulatedModule) (w : Word) : (m.control w).cmderr = m.cmderr := by
  rw [onlyRunControl_control m w]

@[simp] theorem busyLeft_control (m : SimulatedModule) (w : Word) :
    (m.control w).busyLeft = m.busyLeft := by
  rw [onlyRunControl_control m w]

theorem setUpAlike_runProgram (m : SimulatedModule) (w : Word) : SetUpAlike m (m.runProgram w) := by
  rw [runProgram]
  exact .ite (by constructor <;> rfl) (.refl m)

theorem setUpAlike_execute (m : SimulatedModule) (w : Word) : SetUpAlike m (m.execute w) := by
  unfold execute
  refine .ite (by constructor <;> rfl) (.ite (.refl m) ?_)
  extract_lets started number slots
  have begun : SetUpAlike m started := by constructor <;> rfl
  have moved_in : SetUpAlike m (started.moveIn number slots) := by constructor <;> rfl
  have moved_out : SetUpAlike m (started.moveOut number slots) := by constructor <;> rfl
  refine .ite (.ite (by constructor <;> rfl) (.ite ?_ ?_)) ?_
  · exact moved_in.trans (setUpAlike_runProgram _ w)
  · exact moved_out.trans (setUpAlike_runProgram _ w)
  · exact begun.trans (setUpAlike_runProgram _ w)

/-- **A write keeps the setup.** -/
theorem setUpAlike_writeBus (m : SimulatedModule) (address : BusAddress) (w : Word) :
    SetUpAlike m (m.writeBus address w) := by
  rw [writeBus]
  refine .ite (setUpAlike_control m w) (.ite (by constructor <;> rfl)
    (.ite (setUpAlike_execute m w) ?_))
  cases dataSlot? address with
  | some i => constructor <;> rfl
  | none =>
    cases progbufSlot? address with
    | some i => constructor <;> rfl
    | none => exact .refl m

theorem setUpAlike_drained (m : SimulatedModule) : SetUpAlike m m.drained := by
  rw [drained]
  exact .ite (.refl m) (by constructor <;> rfl)

/-- A read of anything but `abstractcs` changes nothing. -/
theorem readBus_state (m : SimulatedModule) {address : BusAddress} (h : address ≠ .abstractcs) :
    (m.readBus address).2 = m := by
  rw [readBus, if_neg h]
  split
  · rfl
  · split
    · rfl
    · cases dataSlot? address with
      | some i => rfl
      | none => cases progbufSlot? address <;> rfl

theorem readBus_abstractcs (m : SimulatedModule) :
    m.readBus .abstractcs = (m.abstractStatus, m.drained) := by
  rw [readBus, if_neg (by decide), if_neg (by decide), if_pos rfl]

/-- **A read keeps the setup.** -/
theorem setUpAlike_readBus (m : SimulatedModule) (address : BusAddress) :
    SetUpAlike m (m.readBus address).2 := by
  by_cases status : address = .abstractcs
  · rw [status, readBus_abstractcs]
    exact setUpAlike_drained m
  · rw [readBus_state m status]
    exact .refl m

/-! ### Modules whose commands finish at once -/

@[simp] theorem busyLeft_runProgram (m : SimulatedModule) (w : Word) :
    (m.runProgram w).busyLeft = m.busyLeft := by
  rw [runProgram]
  split <;> rfl

/-- A command keeps the module busy for as many reads as it was set up to, or is not taken. -/
theorem busyLeft_execute (m : SimulatedModule) (w : Word) :
    (m.execute w).busyLeft = m.busyLeft ∨ (m.execute w).busyLeft = m.busyReads := by
  rw [execute]
  split
  · exact .inl rfl
  · split
    · exact .inl rfl
    · right
      dsimp only
      split
      · split
        · rfl
        · split
          · rw [busyLeft_runProgram, moveIn]
          · rw [busyLeft_runProgram, moveOut]
      · rw [busyLeft_runProgram]

theorem busyLeft_writeBus {m : SimulatedModule} (idle : m.busyLeft = 0) (quick : m.busyReads = 0)
    (address : BusAddress) (w : Word) : (m.writeBus address w).busyLeft = 0 := by
  rw [writeBus]
  split
  · rw [busyLeft_control, idle]
  · split
    · exact idle
    · split
      · rcases busyLeft_execute m w with same | same
        · rw [same, idle]
        · rw [same, quick]
      · cases dataSlot? address with
        | some i => exact idle
        | none => cases progbufSlot? address <;> exact idle

/-- An idle module is as it was after any read. -/
theorem readBus_state_of_idle {m : SimulatedModule} (idle : m.busyLeft = 0) (address : BusAddress) :
    (m.readBus address).2 = m := by
  by_cases status : address = .abstractcs
  · rw [status, readBus_abstractcs]
    show m.drained = m
    rw [drained, idle]
    split
    · rfl
    · rw [show 0 - 1 = m.busyLeft by rw [idle]]
  · exact readBus_state m status

/-! ### The log of register writes -/

@[simp] theorem registerWrites_control (m : SimulatedModule) (w : Word) :
    (m.control w).registerWrites = m.registerWrites := by
  rw [onlyRunControl_control m w]

@[simp] theorem registerWrites_runProgram (m : SimulatedModule) (w : Word) :
    (m.runProgram w).registerWrites = m.registerWrites := by
  rw [runProgram]
  split <;> rfl

theorem registerWrites_execute (m : SimulatedModule) (w : Word) :
    ∃ more, (m.execute w).registerWrites = m.registerWrites ++ more := by
  rw [execute]
  split
  · exact ⟨[], (List.append_nil _).symm⟩
  · split
    · exact ⟨[], (List.append_nil _).symm⟩
    · dsimp only
      split
      · split
        · exact ⟨[], (List.append_nil _).symm⟩
        · split
          · rw [registerWrites_runProgram, moveIn]
            exact ⟨_, rfl⟩
          · rw [registerWrites_runProgram, moveOut]
            exact ⟨[], (List.append_nil _).symm⟩
      · rw [registerWrites_runProgram]
        exact ⟨[], (List.append_nil _).symm⟩

/-- A write to anything but `command` writes no hart register. -/
theorem registerWrites_writeBus_of_ne (m : SimulatedModule) {address : BusAddress}
    (h : address ≠ .command) (w : Word) :
    (m.writeBus address w).registerWrites = m.registerWrites := by
  rw [writeBus, if_neg h]
  split
  · exact registerWrites_control m w
  · split
    · rfl
    · cases dataSlot? address with
      | some i => rfl
      | none => cases progbufSlot? address <;> rfl

/-- **The log of register writes only grows.** -/
theorem registerWrites_writeBus (m : SimulatedModule) (address : BusAddress) (w : Word) :
    ∃ more, (m.writeBus address w).registerWrites = m.registerWrites ++ more := by
  by_cases command : address = .command
  · rw [command, writeBus, if_neg (by decide), if_neg (by decide), if_pos rfl]
    exact registerWrites_execute m w
  · exact ⟨[], by rw [registerWrites_writeBus_of_ne m command, List.append_nil]⟩

theorem registerWrites_readBus (m : SimulatedModule) (address : BusAddress) :
    (m.readBus address).2.registerWrites = m.registerWrites := by
  by_cases status : address = .abstractcs
  · rw [status, readBus_abstractcs]
    show m.drained.registerWrites = m.registerWrites
    rw [drained]
    split <;> rfl
  · rw [readBus_state m status]

/-- A write to anything but `command` starts nothing. -/
theorem busyLeft_writeBus_of_ne (m : SimulatedModule) {address : BusAddress} (h : address ≠ .command)
    (w : Word) : (m.writeBus address w).busyLeft = m.busyLeft := by
  rw [writeBus, if_neg h]
  split
  · exact busyLeft_control m w
  · split
    · rfl
    · cases dataSlot? address with
      | some i => rfl
      | none => cases progbufSlot? address <;> rfl

/-- A module that is not connected refuses to be written, and stays as it is. -/
theorem exec_write_refused {m : SimulatedModule} (h : m.connected = false) (address : BusAddress)
    (w : Word) : (Bus.write address w).exec m = (.error .notConnected, m) := by
  simp only [Bus.write, requireConnected, Action.exec_bind, Action.exec_get, h]
  rfl

theorem exec_read_refused {m : SimulatedModule} (h : m.connected = false) (address : BusAddress) :
    (Bus.read address).exec m = (.error .notConnected, m) := by
  simp only [Bus.read, requireConnected, Action.exec_bind, Action.exec_get, h]
  rfl

end HartDebug.SimulatedModule
