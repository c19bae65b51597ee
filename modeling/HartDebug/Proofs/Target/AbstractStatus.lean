import HartDebug.Proofs.Bits.Fields
import HartDebug.Proofs.Target.Frame

/-!
# What a debug module reports about its commands

`abstractcs` of a simulated module as the session reads it: the busy bit, the latched error, and both of
them at once.  The error field has three bits; a module whose error needs more of them would spill into the
busy bit, and is left out by `ErrorFits`.

* `SimulatedModule.ErrorFits` — the latched error is one that the field can hold;
* `isSet_busy_abstractStatus`, `ofAbstractcs_abstractStatus` — **the session sees the module's own state**;
* `ErrorFits` is kept by every access to the bus.
-/

namespace HartDebug.SimulatedModule

/-- The latched error fits its field. -/
def ErrorFits (m : SimulatedModule) : Prop :=
  m.cmderr.toNat ≤ 7

instance (m : SimulatedModule) : Decidable m.ErrorFits :=
  inferInstanceAs (Decidable (m.cmderr.toNat ≤ 7))

theorem getLsbD_cmderr {m : SimulatedModule} (h : m.ErrorFits) {i : Nat} (hi : 3 ≤ i) :
    m.cmderr.getLsbD i = false := by
  have room : (2 : Nat) ^ 3 ≤ 2 ^ i := Nat.pow_le_pow_right (by omega) hi
  have small : m.cmderr.toNat ≤ 7 := h
  exact Nat.testBit_lt_two_pow (by omega)

/-- The bits of `abstractcs` below the size of the program buffer. -/
theorem getLsbD_abstractStatus (m : SimulatedModule) {i : Nat} (hi : i < 24) :
    m.abstractStatus.getLsbD i =
      ((decide (8 ≤ i) && m.cmderr.getLsbD (i - 8)) || decide (i = 2) ||
        (m.isBusy && decide (i = 12))) := by
  have four : (4 : Word).getLsbD i = decide (i = 2) := by
    revert i
    decide
  have busy : Abstractcs.busy.mask.getLsbD i = decide (i = 12) := by
    revert i
    decide
  have above : decide (8 ≤ i) = !decide (i < 8) := by
    rw [← decide_not, decide_eq_decide]
    omega
  rw [abstractStatus, BitVec.getLsbD_or, BitVec.getLsbD_or, BitVec.getLsbD_or,
    BitVec.getLsbD_shiftLeft, BitVec.getLsbD_shiftLeft, four, above]
  cases m.isBusy with
  | true =>
    rw [if_pos rfl, busy]
    simp [hi, show i < 32 by omega]
  | false =>
    rw [if_neg (by decide)]
    simp [hi, show i < 32 by omega]

/-- **The busy bit says whether a command is busy.** -/
theorem isSet_busy_abstractStatus {m : SimulatedModule} (h : m.ErrorFits) :
    Abstractcs.busy.isSet m.abstractStatus = m.isBusy := by
  rw [BitField.isSet_of_isFlag (by rfl), Abstractcs.busy, getLsbD_abstractStatus m (by decide),
    getLsbD_cmderr h (by decide)]
  simp

/-- The error field holds the latched error. -/
theorem get_cmderr_abstractStatus {m : SimulatedModule} (h : m.ErrorFits) :
    Abstractcs.cmderr.get m.abstractStatus = m.cmderr.toNat := by
  apply Nat.eq_of_testBit_eq
  intro i
  rw [BitField.testBit_get, show Abstractcs.cmderr.width = 3 from rfl,
    show Abstractcs.cmderr.low = 8 from rfl, BitVec.testBit_toNat]
  by_cases inside : i < 3
  · rw [getLsbD_abstractStatus m (by omega), show 8 + i - 8 = i by omega]
    simp [inside, show ¬ 8 + i = 2 by omega, show ¬ 8 + i = 12 by omega]
  · simp [inside, getLsbD_cmderr h (i := i) (by omega)]

/-- **The session sees the error that the module has latched.** -/
theorem ofAbstractcs_abstractStatus {m : SimulatedModule} (h : m.ErrorFits) :
    CommandError.ofAbstractcs m.abstractStatus = .ofCode m.cmderr.toNat := by
  rw [CommandError.ofAbstractcs, get_cmderr_abstractStatus h]

theorem ofCode_eq_none {n : Nat} : CommandError.ofCode n = .none ↔ n = 0 := by
  constructor
  · intro h
    unfold CommandError.ofCode at h
    split at h <;> first | rfl | cases h
  · rintro rfl
    rfl

theorem cmderr_eq_zero (m : SimulatedModule) : m.cmderr.toNat = 0 ↔ m.cmderr = 0 :=
  ⟨fun h => BitVec.eq_of_toNat_eq h, fun h => by rw [h]; rfl⟩

/-- The mask of the error field finds the latched error. -/
theorem and_cmderr_eq_zero {m : SimulatedModule} (h : m.ErrorFits) :
    m.abstractStatus &&& Abstractcs.cmderr.mask = 0 ↔ m.cmderr = 0 := by
  rw [BitField.and_mask_eq_zero, get_cmderr_abstractStatus h, cmderr_eq_zero]

/-- **On an idle module the mask of everything unfinished finds the latched error** and nothing else. -/
theorem and_unfinished_eq_zero {m : SimulatedModule} (h : m.ErrorFits) (idle : m.isBusy = false) :
    m.abstractStatus &&& Abstractcs.unfinished = 0 ↔ m.cmderr = 0 := by
  have quiet : m.abstractStatus &&& Abstractcs.busy.mask = 0#32 := by
    refine (BitField.and_mask_eq_zero _ _).2 ?_
    simpa [BitField.isSet, idle] using isSet_busy_abstractStatus h
  rw [Abstractcs.unfinished, BitVec.and_or_distrib_left, quiet, BitVec.zero_or, and_cmderr_eq_zero h]

/-! ### The error through accesses to the bus -/

theorem errorFits_of_cmderr {m m' : SimulatedModule} (h : m.ErrorFits) (same : m'.cmderr = m.cmderr) :
    m'.ErrorFits := by
  rw [ErrorFits, same]
  exact h

@[simp] theorem cmderr_runProgram (m : SimulatedModule) (w : Word) :
    (m.runProgram w).cmderr = m.cmderr := by
  rw [runProgram]
  split <;> rfl

theorem ErrorFits.execute {m : SimulatedModule} (h : m.ErrorFits) (w : Word) :
    (m.execute w).ErrorFits := by
  rw [SimulatedModule.execute]
  split
  · exact (by decide : (1 : Word).toNat ≤ 7)
  · split
    · exact h
    · dsimp only
      split
      · split
        · exact (by decide : (3 : Word).toNat ≤ 7)
        · split
          · exact errorFits_of_cmderr h (cmderr_runProgram _ _)
          · exact errorFits_of_cmderr h (cmderr_runProgram _ _)
      · exact errorFits_of_cmderr h (cmderr_runProgram _ _)

theorem ErrorFits.writeBus {m : SimulatedModule} (h : m.ErrorFits) (address : BusAddress) (w : Word) :
    (m.writeBus address w).ErrorFits := by
  have small : m.cmderr.toNat ≤ 7 := h
  rw [SimulatedModule.writeBus]
  split
  · exact errorFits_of_cmderr h (cmderr_control m w)
  · split
    · -- Clearing bits of the error never raises it.
      show (m.cmderr &&& ~~~ ((w >>> 8) &&& 7)).toNat ≤ 7
      rw [BitVec.toNat_and]
      exact Nat.le_trans Nat.and_le_left small
    · split
      · exact h.execute w
      · split
        · exact h
        · split
          · exact h
          · exact h

theorem ErrorFits.readBus {m : SimulatedModule} (h : m.ErrorFits) (address : BusAddress) :
    (m.readBus address).2.ErrorFits := by
  rw [SimulatedModule.readBus]
  split
  · exact h
  · split
    · exact h
    · split
      · show m.drained.ErrorFits
        rw [drained]
        split <;> exact h
      · split
        · exact h
        · split <;> exact h

/-- The busy bit is clear only where no command is busy. -/
theorem isBusy_of_isSet {m : SimulatedModule} (h : Abstractcs.busy.isSet m.abstractStatus = false) :
    m.isBusy = false := by
  rw [BitField.isSet_of_isFlag (by rfl), Abstractcs.busy, getLsbD_abstractStatus m (by decide)] at h
  simpa using (Bool.or_eq_false_iff.1 h).2

/-- A command that is not dropped leaves the error that was latched, or that of an exception. -/
theorem cmderr_execute {m : SimulatedModule} (free : m.isBusy = false) (w : Word) :
    (m.execute w).cmderr = m.cmderr ∨ (m.execute w).cmderr = 3 := by
  simp only [isBusy, Bool.or_eq_false_iff, decide_eq_false_iff_not] at free
  rw [execute, if_neg (by simp [free])]
  split
  · exact .inl rfl
  · dsimp only
    split
    · split
      · exact .inr rfl
      · split
        · exact .inl (cmderr_runProgram _ _)
        · exact .inl (cmderr_runProgram _ _)
    · exact .inl (cmderr_runProgram _ _)

/-- A write to anything but `abstractcs` and `command` leaves the latched error alone. -/
theorem cmderr_writeBus_of_ne (m : SimulatedModule) {address : BusAddress} (status : address ≠ .abstractcs)
    (command : address ≠ .command) (w : Word) : (m.writeBus address w).cmderr = m.cmderr := by
  rw [writeBus, if_neg status, if_neg command]
  split
  · exact cmderr_control m w
  · cases dataSlot? address with
    | some i => rfl
    | none => cases progbufSlot? address <;> rfl

theorem cmderr_readBus (m : SimulatedModule) (address : BusAddress) :
    (m.readBus address).2.cmderr = m.cmderr := by
  by_cases status : address = .abstractcs
  · rw [status, readBus_abstractcs]
    show m.drained.cmderr = m.cmderr
    rw [drained]
    split <;> rfl
  · rw [readBus_state m status]

/-- What is left of an error after all of it was acknowledged is not the one of a dropped command. -/
theorem cmderr_acknowledged (m : SimulatedModule) :
    (m.writeBus .abstractcs Abstractcs.cmderr.mask).cmderr ≠ 1 := by
  show m.cmderr &&& ~~~ ((Abstractcs.cmderr.mask >>> 8) &&& 7) ≠ 1
  rw [show (Abstractcs.cmderr.mask >>> 8) &&& 7 = (7 : Word) by decide]
  intro dropped
  have lowest := congrArg (BitVec.getLsbD · 0) dropped
  simp at lowest

/-- **An error that is acknowledged is gone.** -/
theorem cmderr_cleared {m : SimulatedModule} (h : m.ErrorFits) :
    (m.writeBus .abstractcs Abstractcs.cmderr.mask).cmderr = 0 := by
  show m.cmderr &&& ~~~ ((Abstractcs.cmderr.mask >>> 8) &&& 7) = 0
  rw [show (Abstractcs.cmderr.mask >>> 8) &&& 7 = (7 : Word) by decide]
  apply BitVec.eq_of_getLsbD_eq
  intro i hi
  have clear : (0 : Word).getLsbD i = false := BitVec.getLsbD_zero
  rw [BitVec.getLsbD_and, clear]
  by_cases inside : i < 3
  · have masked : ∀ i < 3, (~~~ (7 : Word)).getLsbD i = false := by decide
    rw [masked i inside, Bool.and_false]
  · rw [getLsbD_cmderr h (by omega), Bool.false_and]

/-- Acknowledging an error changes nothing else. -/
theorem writeBus_cleared {m : SimulatedModule} (h : m.ErrorFits) :
    m.writeBus .abstractcs Abstractcs.cmderr.mask = { m with cmderr := 0 } := by
  have none_left := cmderr_cleared h
  rw [writeBus, if_neg (by decide), if_pos rfl] at none_left ⊢
  exact congrArg (fun e => { m with cmderr := e }) none_left

end HartDebug.SimulatedModule
