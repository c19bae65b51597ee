import HartDebug.Command
import HartDebug.Proofs.Bits.Fields
import HartDebug.Proofs.Bits.Values
import HartDebug.Proofs.Target.Frame

/-!
# Moving registers

How a simulated module takes the commands that a session sends.  A command word is made of fields and taken
apart into the same fields again; the operand registers carry a value word by word in either direction.

* `AccessRegister.regno_move`, `AccessRegister.isSet_write_move` — **the module finds in a command word what
  was put into it**;
* `SimulatedModule.Ready` — a module that takes the next command;
* `SimulatedModule.holding` — a module with a value in its operand registers;
* `SimulatedModule.execute_write`, `SimulatedModule.execute_read` — **a command that moves a register**;
* `SimulatedModule.execute_move_unimplemented`, `SimulatedModule.execute_of_latched` — commands that move
  none;
* `SimulatedModule.Healthy` — a module that never refuses a command, and stays so.
-/

namespace HartDebug

namespace AccessRegister

variable (number : RegisterNumber) (width : TransferWidth) (isWrite : Bool)

/-! ### The fields of a command word -/

theorem isSet_transfer_move : transfer.isSet (move number width isWrite) = true := by
  rw [move, BitField.isSet_set_of_apart (by decide), BitField.isSet_setFlag_of_apart (by decide),
    BitField.isSet_set_of_apart (by decide), BitField.isSet_setFlag]

theorem isSet_write_move : write.isSet (move number width isWrite) = isWrite := by
  rw [move, BitField.isSet_set_of_apart (by decide), BitField.isSet_setFlag]

theorem isSet_postexec_move : postexec.isSet (move number width isWrite) = false := by
  rw [move, BitField.isSet_set_of_apart (by decide), BitField.isSet_setFlag_of_apart (by decide),
    BitField.isSet_set_of_apart (by decide), BitField.isSet_setFlag_of_apart (by decide)]
  decide

theorem regno_move : BitVec.ofNat 16 (regno.get (move number width isWrite)) = number := by
  have small : number.toNat < 2 ^ 16 := number.isLt
  rw [move, BitField.get_set, show regno.width = 16 from rfl, Nat.mod_eq_of_lt small]
  exact BitVec.ofNat_toNat 16 number

theorem aarsize_move : aarsize.get (move number width isWrite) = width.sizeCode := by
  rw [move, BitField.get_set_of_apart (by decide), BitField.get_setFlag_of_apart (by decide),
    BitField.get_set]
  cases width <;> rfl

end AccessRegister

namespace SimulatedModule

variable {m : SimulatedModule}

theorem slotsOf_sizeCode (width : TransferWidth) : slotsOf width.sizeCode = width.slots := by
  cases width <;> rfl

/-! ### Operand registers -/

theorem dataSlot?_data (slot : Fin 4) : dataSlot? (.data slot) = some slot := by
  revert slot
  decide

theorem writeBus_data (m : SimulatedModule) {slot : Nat} (inside : slot < 4) (w : Word) :
    m.writeBus (.data slot) w = { m with data := m.data.set slot w inside } := by
  have other : ∀ i : Fin 4, BusAddress.data i ≠ .dmcontrol ∧ BusAddress.data i ≠ .abstractcs ∧
      BusAddress.data i ≠ .command := by decide
  obtain ⟨not_control, not_status, not_command⟩ := other ⟨slot, inside⟩
  rw [writeBus, if_neg not_control, if_neg not_status, if_neg not_command,
    dataSlot?_data ⟨slot, inside⟩]

theorem readBus_data (m : SimulatedModule) {slot : Nat} (inside : slot < 4) :
    m.readBus (.data slot) = (m.data[slot], m) := by
  have other : ∀ i : Fin 4, BusAddress.data i ≠ .dmcontrol ∧ BusAddress.data i ≠ .dmstatus ∧
      BusAddress.data i ≠ .abstractcs := by decide
  obtain ⟨not_control, not_hart_status, not_status⟩ := other ⟨slot, inside⟩
  rw [readBus, if_neg not_control, if_neg not_hart_status, if_neg not_status,
    dataSlot?_data ⟨slot, inside⟩]
  rfl

/-- The module with the first words of a value in its operand registers. -/
def holding (m : SimulatedModule) (value : Value) (slots : Nat) : SimulatedModule :=
  { m with data := m.data.mapFinIdx fun i w _ => if i < slots then value.word i else w }

theorem holding_zero (m : SimulatedModule) (value : Value) : m.holding value 0 = m := by
  have same : (m.data.mapFinIdx fun i w _ => if i < 0 then value.word i else w) = m.data := by
    apply Vector.ext
    intro i hi
    simp
  rw [holding, same]

theorem getElem_holding (m : SimulatedModule) (value : Value) (slots : Nat) (i : Nat) (hi : i < 4) :
    (m.holding value slots).data[i] = if i < slots then value.word i else m.data[i] := by
  simp [holding]

/-- The next word of a value goes into the next operand register. -/
theorem holding_succ (m : SimulatedModule) (value : Value) {n : Nat} (h : n < 4) :
    (m.holding value n).writeBus (.data n) (value.word n) = m.holding value (n + 1) := by
  have slot := writeBus_data (m.holding value n) h (value.word n)
  have data : (m.holding value n).data.set n (value.word n) = (m.holding value (n + 1)).data := by
    apply Vector.ext
    intro i hi
    rw [Vector.getElem_set, getElem_holding, getElem_holding]
    by_cases here : n = i
    · rw [if_pos here, if_pos (by omega), here]
    · rw [if_neg here]
      by_cases before : i < n
      · rw [if_pos before, if_pos (by omega)]
      · rw [if_neg before, if_neg (by omega)]
  rw [slot]
  show { m.holding value n with data := (m.holding value n).data.set n (value.word n) } = _
  rw [data]
  rfl

/-- **Words written one after another** are held by the operand registers. -/
theorem foldl_writeBus_data (m : SimulatedModule) (value : Value) {n : Nat} (h : n ≤ 4) :
    (List.range n).foldl (fun m slot => m.writeBus (.data slot) (value.word slot)) m =
      m.holding value n := by
  induction n with
  | zero => rw [List.range_zero, List.foldl_nil, holding_zero]
  | succ n ih => rw [List.range_succ, List.foldl_append, ih (by omega), List.foldl_cons, List.foldl_nil,
      holding_succ m value (by omega)]

theorem take_holding (m : SimulatedModule) (value : Value) {n : Nat} (h : n ≤ 4) :
    (m.holding value n).data.toList.take n = (List.range n).map value.word := by
  apply List.ext_getElem
  · simp [h]
  · intro i hi hi'
    have below : i < n := by simpa using hi'
    rw [List.getElem_take, Vector.getElem_toList, getElem_holding _ _ _ _ (by omega), if_pos below,
      List.getElem_map, List.getElem_range]

/-! ### Commands -/

/-- The module takes the next command: none is in flight, and no error is latched. -/
structure Ready (m : SimulatedModule) : Prop where
  clear : m.cmderr = 0
  idle : m.busyLeft = 0
  free : m.stuckBusy = false

/-- The module has taken a command and looks busy for as many reads as it was set up to. -/
def started (m : SimulatedModule) : SimulatedModule :=
  { m with busyLeft := m.busyReads }

/-- The module after a register was written. -/
def storing (m : SimulatedModule) (number : RegisterNumber) (value : Value) : SimulatedModule :=
  { m with
    registers := m.registers.set number value
    registerWrites := m.registerWrites ++ [(number, value)] }

theorem Ready.holding (h : m.Ready) (value : Value) (slots : Nat) : (m.holding value slots).Ready :=
  ⟨h.clear, h.idle, h.free⟩

theorem setUpAlike_holding (m : SimulatedModule) (value : Value) (slots : Nat) :
    m.SetUpAlike (m.holding value slots) :=
  ⟨rfl, rfl, rfl, rfl, rfl, rfl, rfl⟩

theorem setUpAlike_started (m : SimulatedModule) : m.SetUpAlike m.started :=
  ⟨rfl, rfl, rfl, rfl, rfl, rfl, rfl⟩

theorem setUpAlike_storing (m : SimulatedModule) (number : RegisterNumber) (value : Value) :
    m.SetUpAlike (m.storing number value) :=
  ⟨rfl, rfl, rfl, rfl, rfl, rfl, rfl⟩

theorem writeBus_command (m : SimulatedModule) (w : Word) : m.writeBus .command w = m.execute w := by
  rw [writeBus, if_neg (by decide), if_neg (by decide), if_pos rfl]

/-- A ready module that has the register makes the move that the command word asks for. -/
theorem execute_move (h : m.Ready) {number : RegisterNumber} (known : number ∉ m.unimplemented)
    (width : TransferWidth) (isWrite : Bool) :
    m.execute (AccessRegister.move number width isWrite) =
      if isWrite then m.started.moveIn number width.slots else m.started.moveOut number width.slots := by
  have free : ¬ (0 < m.busyLeft ∨ m.stuckBusy = true) := by simp [h.idle, h.free]
  have programless : ∀ n : SimulatedModule,
      n.runProgram (AccessRegister.move number width isWrite) = n := by
    intro n
    rw [runProgram, if_neg (by rw [AccessRegister.isSet_postexec_move]; decide)]
  rw [execute, if_neg free, if_neg (by rw [h.clear]; decide)]
  dsimp only
  rw [if_pos (AccessRegister.isSet_transfer_move number width isWrite), AccessRegister.regno_move,
    AccessRegister.aarsize_move, slotsOf_sizeCode, if_neg known, AccessRegister.isSet_write_move,
    programless, programless]
  rfl

/-- **A command that writes a register** stores what the operand registers hold. -/
theorem execute_write (h : m.Ready) {number : RegisterNumber} (known : number ∉ m.unimplemented)
    (value : Value) (width : TransferWidth) :
    (m.holding value width.slots).execute (AccessRegister.move number width true) =
      ((m.holding value width.slots).started).storing number (value &&& Value.lowMask width.bits) := by
  have slots : width.slots ≤ 4 := by cases width <;> decide
  rw [execute_move (h.holding value width.slots) known, if_pos rfl, moveIn, storing]
  have words : Value.ofWords ((m.holding value width.slots).started.data.toList.take width.slots) =
      value &&& Value.lowMask width.bits := by
    show Value.ofWords ((m.holding value width.slots).data.toList.take width.slots) = _
    rw [take_holding m value slots, Value.ofWords_words value slots, width.bits_eq_slots]
  rw [words]

/-- **A command that reads a register** leaves its value in the operand registers. -/
theorem execute_read (h : m.Ready) {number : RegisterNumber} (known : number ∉ m.unimplemented)
    (width : TransferWidth) :
    m.execute (AccessRegister.move number width false) =
      m.started.holding (m.registers.get number) width.slots := by
  rw [execute_move h known, if_neg (by decide)]
  rfl

/-- A module that has not the register raises an exception. -/
theorem execute_move_unimplemented (h : m.Ready) {number : RegisterNumber}
    (unknown : number ∈ m.unimplemented) (width : TransferWidth) (isWrite : Bool) :
    m.execute (AccessRegister.move number width isWrite) = { m.started with cmderr := 3 } := by
  have free : ¬ (0 < m.busyLeft ∨ m.stuckBusy = true) := by simp [h.idle, h.free]
  rw [execute, if_neg free, if_neg (by rw [h.clear]; decide)]
  dsimp only
  rw [if_pos (AccessRegister.isSet_transfer_move number width isWrite), AccessRegister.regno_move,
    if_pos unknown]
  rfl

/-- A command that comes while an error is latched is dropped. -/
theorem execute_of_latched (free : m.isBusy = false) (latched : m.cmderr ≠ 0) (w : Word) :
    m.execute w = m := by
  simp only [isBusy, Bool.or_eq_false_iff, decide_eq_false_iff_not] at free
  rw [execute, if_neg (by simp [free]), if_pos latched]

/-- The command that only runs the program buffer. -/
theorem execute_execute (h : m.Ready) :
    m.execute AccessRegister.execute = { m.started with programsRun := m.programsRun + 1 } := by
  have free : ¬ (0 < m.busyLeft ∨ m.stuckBusy = true) := by simp [h.idle, h.free]
  rw [execute, if_neg free, if_neg (by rw [h.clear]; decide)]
  dsimp only
  rw [if_neg (by decide), runProgram, if_pos (by decide)]
  rfl

/-! ### Modules that never refuse -/

/-- A module that has every register and whose commands finish at once. -/
structure Healthy (m : SimulatedModule) : Prop extends m.Ready where
  quick : m.busyReads = 0
  complete : m.unimplemented = []

theorem Healthy.started (h : m.Healthy) : m.started = m :=
  congrArg (fun n => { m with busyLeft := n }) (h.quick.trans h.idle.symm)

theorem Healthy.clear_execute (h : m.Healthy) (w : Word) : (m.execute w).cmderr = 0 := by
  have free : ¬ (0 < m.busyLeft ∨ m.stuckBusy = true) := by simp [h.idle, h.free]
  have run : ∀ n : SimulatedModule, (n.runProgram w).cmderr = n.cmderr := by
    intro n
    rw [runProgram]
    split <;> rfl
  rw [execute, if_neg free, if_neg (by rw [h.clear]; decide)]
  dsimp only
  split
  · rw [if_neg (by rw [h.complete]; exact List.not_mem_nil)]
    split
    · rw [run]
      exact h.clear
    · rw [run]
      exact h.clear
  · rw [run]
    exact h.clear

/-- **A module that refuses nothing goes on so**, whatever is written to it. -/
theorem Healthy.writeBus (h : m.Healthy) (address : BusAddress) (w : Word) :
    (m.writeBus address w).Healthy := by
  have same := setUpAlike_writeBus m address w
  refine ⟨⟨?_, busyLeft_writeBus h.idle h.quick address w, ?_⟩, ?_, ?_⟩
  · rw [SimulatedModule.writeBus]
    split
    · rw [cmderr_control, h.clear]
    · split
      · show m.cmderr &&& ~~~ ((w >>> 8) &&& 7) = 0
        rw [h.clear]
        exact BitVec.zero_and
      · split
        · exact h.clear_execute w
        · cases dataSlot? address with
          | some i => exact h.clear
          | none => cases progbufSlot? address <;> exact h.clear
  · rw [same.stuckBusy, h.free]
  · rw [same.busyReads, h.quick]
  · rw [same.unimplemented, h.complete]

theorem Healthy.readBus (h : m.Healthy) (address : BusAddress) : (m.readBus address).2 = m :=
  readBus_state_of_idle h.idle address

end SimulatedModule

end HartDebug
