import HartDebug.Proofs.Session.Footprint
import HartDebug.Proofs.Session.RegisterFile
import HartDebug.Proofs.Session.Travel

/-!
# Single steps

A step reads `dcsr`, sets the step bit in it unless it is set, resumes the hart, and clears the bit.  On a module
that takes commands nothing else comes of it: the other bits of the register, the other registers and the program
buffer are as they were before.

* `stepValues`, `stepWrites` — what a step writes;
* `Session.armStep`, `Session.finishStep` — a step before and after the hart is resumed;
* `TransportCall.carryOut`, `Traced.stays_told` — **the calls under trace tell what the transport has come to**;
* `Session.Follows.armStep`, `Session.Follows.finishStep` — either half on a module that takes commands;
* `Session.step_changes_step_bit` — **a step changes the step bit alone**, and only for the time of the step.
-/

namespace HartDebug

open Action (Moves IsTravel Simulates)
open Session (stepBit)

variable {τ α : Type}

/-! ### What a step writes -/

/-- The values that a step writes when it starts from a value of `dcsr`. -/
def stepValues (dcsr : Word) : List Word :=
  (if dcsr &&& stepBit = 0 then [dcsr ||| stepBit] else []) ++ [dcsr &&& ~~~ stepBit]

/-- The register writes of a step. -/
def stepWrites (dcsr : Word) : List (RegisterNumber × Value) :=
  (stepValues dcsr).map fun w => (Catalog.dcsrNumber, w.setWidth 128)

namespace Session

section Halves

variable [Transport τ]

/-- The first half of a step: the step bit is set, and `dcsr` as it was is answered. -/
def armStep : Action DebugError (Session τ) Word := do
  let dcsr ← currentDcsr
  if dcsr &&& stepBit = 0 then
    writeDcsr (dcsr ||| stepBit)
  pure dcsr

/-- The second half of a step: the hart is resumed, and the step bit is cleared. -/
def finishStep (dcsr : Word) : Action DebugError (Session τ) Unit := do
  request Dmcontrol.resumereq
  let cleared := dcsr &&& ~~~ stepBit
  writeDcsr cleared
  modify fun s => { s with dcsrShadow := cleared }

/-- A step is its two halves. -/
theorem exec_step (s : Session τ) : step.exec s = (armStep >>= finishStep).exec s := by
  rw [step, armStep, Action.exec_bind_ok (Action.exec_log _ _ _ s), Action.exec_bind_assoc]
  refine Action.exec_bind_congr s fun dcsr t => ?_
  dsimp only
  split
  · rw [Action.exec_bind_assoc]
    rfl
  · rfl

end Halves

/-! ### What the calls under trace tell -/

end Session

/-- What a transport has come to after some calls. -/
def TransportCall.carryOut [Transport τ] (calls : List TransportCall) (t : τ) : τ :=
  calls.foldl (fun t call => (call.perform.exec t).2) t

namespace Traced

variable [Transport τ]

/-- The calls listed since then have brought the transport where it is. -/
def Told (t u : Traced τ) : Prop :=
  ∃ calls, u.calls = t.calls ++ calls ∧ u.transport = TransportCall.carryOut calls t.transport

theorem isTravel_told : IsTravel (Told (τ := τ)) where
  refl _ := ⟨[], (List.append_nil _).symm, rfl⟩
  trans := by
    rintro a b c ⟨calls, listed, there⟩ ⟨calls', listed', there'⟩
    refine ⟨calls ++ calls', ?_, ?_⟩
    · rw [listed', listed, List.append_assoc]
    · rw [there', there, TransportCall.carryOut, TransportCall.carryOut, TransportCall.carryOut,
        List.foldl_append]

/-- A single call brings the transport where it would without a trace. -/
theorem told_call {call : TransportCall} {x : Action DebugError τ α} {f : α → TransportCall.Answer}
    (performs : call.perform = f <$> x) : Moves Told (Traced.call call x) := by
  intro t
  refine ⟨[call], rfl, ?_⟩
  show (x.exec t.transport).2 = (call.perform.exec t.transport).2
  rw [performs, Action.exec_map]

/-- **The calls under trace tell what the transport has come to.** -/
theorem stays_told : Transport.Stays (Told (τ := τ)) where
  travel := isTravel_told
  write _ _ := told_call (f := fun _ => .done) rfl
  read _ := told_call (f := .word) rfl
  writeDtmcs _ := told_call (f := fun _ => .done) rfl
  readDtmcs := told_call (f := .word) rfl
  readIdcode := told_call (f := .word) rfl
  resetTap := told_call (f := fun _ => .done) rfl
  expect _ _ _ := told_call (f := .check) rfl
  expectIdcode _ := told_call (f := .check) rfl
  idle _ := told_call (f := fun _ => .done) rfl

end Traced

namespace Session

section Halves

variable [Transport τ]

theorem simulates_armStep : Simulates (Alike Traced.Over) (armStep (τ := Traced τ)) (armStep (τ := τ)) := by
  refine (simulates_currentDcsr agree_traced).bind fun dcsr => ?_
  dsimp only
  split
  · exact (simulates_writeDcsr agree_traced _).bind fun _ => .pure dcsr
  · exact .pure dcsr

theorem issues_armStep : Issues [] (armStep (τ := Traced τ)) := by
  refine issues_currentDcsr.bind fun dcsr => ?_
  dsimp only
  split
  · exact (issues_writeRegister _ _ _).bind fun _ => issues_pure dcsr
  · exact issues_pure dcsr

/-- The calls of the first half of a step tell what the transport has come to. -/
theorem told_armStep : Moves (Along Traced.Told) (armStep (τ := Traced τ)) := by
  have parts := parts_stays (Traced.stays_told (τ := τ))
  have travel := Traced.stays_told (τ := τ) |>.along
  refine parts.currentDcsr.bind travel fun dcsr => ?_
  dsimp only
  split
  · exact (parts.writeRegister _ _ _).bind travel fun _ => .pure travel dcsr
  · exact .pure travel dcsr

end Halves

/-! ### Either half on a module that takes commands -/

variable {s s' : Session SimulatedModule} {before : List RegisterCall}

/-- The call that a write of `dcsr` is. -/
def dcsrWrite (w : Word) : RegisterCall :=
  .write "DCSR" (w.setWidth 128) none

/-- The low word of what a register holds, as a read at any width carries it. -/
theorem setWidth_and_lowMask (w : Word) (width : TransferWidth) :
    (w.setWidth 128 &&& Value.lowMask width.bits).setWidth 32 = w := by
  rw [Value.and_lowMask_of_fits (fits_word width w) (Nat.le_refl _) width.bits_le,
    BitVec.setWidth_setWidth_of_le w (by decide), BitVec.setWidth_eq]

/-- Requests to the hart leave in force what the calls before have left. -/
theorem Follows.control (h : s.Follows before s') (w : Word) :
    s.Follows before (s'.withTransport (s'.transport.control w)) := by
  have same := SimulatedModule.setUpAlike_control s'.transport w
  have registers : (s'.transport.control w).registers = s'.transport.registers := by
    rw [SimulatedModule.onlyRunControl_control s'.transport w]
  refine ⟨h.config, h.width, h.setUp.trans same, ⟨?_, ?_, same.stuckBusy.trans h.ready.free⟩, h.clock, h.looks,
    fun n => ?_⟩
  · exact (SimulatedModule.cmderr_control _ _).trans h.ready.clear
  · exact (SimulatedModule.busyLeft_control _ _).trans h.ready.idle
  · show (s'.transport.control w).registers.get n = _
    rw [registers, h.held n]

section

variable (h : s.Follows before s') (connected : s.transport.connected = true)
  (implemented : Catalog.dcsrNumber ∉ s.transport.unimplemented)
include h connected implemented

/-- A read of `dcsr` answers the word that it holds. -/
theorem Follows.currentDcsr {v : Word} (held : s'.transport.registers.get Catalog.dcsrNumber = v.setWidth 128)
    (drains : s.DrainsAt before.length) :
    ∃ t, Session.currentDcsr.exec s' = (.ok v, t) ∧ s.Follows (before ++ [.read "DCSR" none]) t ∧
      s'.transport.ChangedAt Catalog.dcsrNumber t.transport ∧
      t.transport.registerWrites = s'.transport.registerWrites := by
  obtain ⟨t, read, follows, changed, writes⟩ := h.read connected (locate_dcsr s) implemented drains
  refine ⟨t, ?_, follows, changed, writes⟩
  rw [Session.currentDcsr, Action.exec_bind_ok (Action.exec_get s'), isLive_module, if_pos rfl,
    Action.exec_bind_ok read, held, setWidth_and_lowMask]
  rfl

/-- A write of `dcsr` leaves the word in it. -/
theorem Follows.writeDcsr (w : Word) (drains : s.DrainsAt before.length) :
    ∃ t, (Session.writeDcsr w).exec s' = (.ok (), t) ∧ s.Follows (before ++ [dcsrWrite w]) t ∧
      s'.transport.ChangedAt Catalog.dcsrNumber t.transport ∧
      t.transport.registerWrites = s'.transport.registerWrites ++ [(Catalog.dcsrNumber, w.setWidth 128)] ∧
      t.transport.registers.get Catalog.dcsrNumber = w.setWidth 128 := by
  obtain ⟨t, written, follows, changed, writes⟩ :=
    h.write connected (locate_dcsr s) implemented (fits_word s.width w) drains
  refine ⟨t, written, follows, changed, writes, ?_⟩
  rw [follows.held, RegisterCall.heldAfter_snoc, stores?_write (locate_dcsr s), if_pos rfl, Option.getD_some]

end

/-- A word with the step bit set is one that has it set already, or is another. -/
theorem or_stepBit_of_ne {v : Word} (set : v &&& stepBit ≠ 0) : v ||| stepBit = v := by
  have one : stepBit = BitVec.twoPow 32 2 := rfl
  have bit : v.getLsbD 2 = true := by
    rw [one, BitVec.and_twoPow] at set
    by_contra clear
    rw [if_neg clear] at set
    exact set rfl
  rw [one]
  apply BitVec.eq_of_getLsbD_eq
  intro i inside
  rw [BitVec.getLsbD_or, BitVec.getLsbD_twoPow]
  by_cases here : 2 = i
  · subst here
    simp [bit]
  · simp [here]

section

variable {v : Word} (connected : s.transport.connected = true)
  (implemented : Catalog.dcsrNumber ∉ s.transport.unimplemented)
include connected implemented

/-- **The first half of a step** leaves the step bit set. -/
theorem exec_armStep (ready : s.transport.Ready)
    (held : s.transport.registers.get Catalog.dcsrNumber = v.setWidth 128)
    (drains : ∀ k < (stepValues v).length, s.DrainsAt k) :
    ∃ before t, armStep.exec s = (.ok v, t) ∧ s.Follows before t ∧ before.length = (stepValues v).length ∧
      s.transport.ChangedAt Catalog.dcsrNumber t.transport ∧
      t.transport.registers.get Catalog.dcsrNumber = (v ||| stepBit).setWidth 128 ∧
      t.transport.registerWrites ++ [(Catalog.dcsrNumber, (v &&& ~~~ stepBit).setWidth 128)] =
        s.transport.registerWrites ++ stepWrites v := by
  have start : s.Follows [] s := .start ready
  have some_value : 0 < (stepValues v).length := by simp [stepValues]
  obtain ⟨t, read, follows, changed, writes⟩ :=
    start.currentDcsr connected implemented held (drains 0 some_value)
  by_cases clear : v &&& stepBit = 0
  · have two : (stepValues v).length = 2 := by simp [stepValues, clear]
    obtain ⟨u, written, follows', changed', writes', held'⟩ :=
      follows.writeDcsr connected implemented (v ||| stepBit) (drains 1 (by omega))
    refine ⟨_, u, ?_, follows', two.symm, changed.trans changed', held', ?_⟩
    · rw [armStep, Action.exec_bind_ok read]
      dsimp only
      rw [if_pos clear, Action.exec_bind_ok written]
      rfl
    · rw [writes', writes, stepWrites, stepValues, if_pos clear, List.append_assoc]
      rfl
  · have one : (stepValues v).length = 1 := by
      rw [stepValues, if_neg clear]
      rfl
    refine ⟨_, t, ?_, follows, one.symm, changed, ?_, ?_⟩
    · rw [armStep, Action.exec_bind_ok read]
      dsimp only
      rw [if_neg clear]
      rfl
    · rw [follows.held, RegisterCall.heldAfter_snoc, or_stepBit_of_ne clear, ← held]
      rfl
    · rw [writes, stepWrites, stepValues, if_neg clear]
      rfl

/-- **The second half of a step** leaves the step bit clear and the hart running. -/
theorem exec_finishStep_of_follows {before : List RegisterCall} {t : Session SimulatedModule}
    (follows : s.Follows before t) (drains : s.DrainsAt before.length) (v : Word) :
    ∃ u, (finishStep v).exec t = (.ok (), u) ∧
      (t.transport.control (Dmcontrol.request Dmcontrol.resumereq)).ChangedAt Catalog.dcsrNumber u.transport ∧
      u.transport.registers.get Catalog.dcsrNumber = (v &&& ~~~ stepBit).setWidth 128 ∧
      u.transport.registerWrites =
        t.transport.registerWrites ++ [(Catalog.dcsrNumber, (v &&& ~~~ stepBit).setWidth 128)] := by
  have asked : (request Dmcontrol.resumereq).exec t =
      (.ok (), t.withTransport (t.transport.control (Dmcontrol.request Dmcontrol.resumereq))) :=
    exec_writeDmi (follows.setUp.connected.trans connected) .dmcontrol _
  obtain ⟨u, written, -, changed, writes, held⟩ :=
    (follows.control (Dmcontrol.request Dmcontrol.resumereq)).writeDcsr connected implemented
      (v &&& ~~~ stepBit) drains
  refine ⟨{ u with dcsrShadow := v &&& ~~~ stepBit }, ?_, changed, held, ?_⟩
  · rw [finishStep, Action.exec_bind_ok asked]
    dsimp only
    rw [Action.exec_bind_ok written]
    rfl
  · refine writes.trans ?_
    exact congrArg (· ++ _) (SimulatedModule.registerWrites_control _ _)

end

/-! ### Whole steps -/

/-- A request to resume sets the hart running, and does nothing else to it. -/
theorem control_resume (m : SimulatedModule) : m.control (Dmcontrol.request Dmcontrol.resumereq) =
    { m with dmactive := true, halted := false, resumeAcknowledged := true } := rfl

/-- What a step comes to that starts from a value of `dcsr`. -/
structure StepsFrom (v : Word) (s : Session SimulatedModule) : Prop where
  succeeds : (step.exec s).1 = .ok ()
  /-- The step bit is clear in the end. -/
  dcsr : (step.exec s).2.transport.registers.get Catalog.dcsrNumber = (v &&& ~~~ stepBit).setWidth 128
  /-- All else is as it was. -/
  others : ∀ n, n ≠ Catalog.dcsrNumber →
    (step.exec s).2.transport.registers.get n = s.transport.registers.get n
  progbuf : (step.exec s).2.transport.progbuf = s.transport.progbuf
  haltOnReset : (step.exec s).2.transport.haltOnReset = s.transport.haltOnReset
  haveReset : (step.exec s).2.transport.haveReset = s.transport.haveReset
  /-- The hart has been resumed. -/
  running : (step.exec s).2.transport.halted = false
  acknowledged : (step.exec s).2.transport.resumeAcknowledged = true
  /-- The step bit is set first, unless it is set, and cleared last. -/
  writes : (step.exec s).2.transport.registerWrites = s.transport.registerWrites ++ stepWrites v
  /-- A trace makes no difference. -/
  outcome : (step.exec s.traced).1 = (step.exec s).1
  transport : (step.exec s.traced).2.transport.transport = (step.exec s).2.transport
  /-- One of the calls requests that the hart is resumed, and no other one requests anything of it.  When it comes
  the step bit is set, and all writes have been made but the one that clears it. -/
  requested : ∃ before after,
    (step.exec s.traced).2.transport.calls = before ++ .write .dmcontrol 0x40000001 :: after ∧
    (∀ w, .write .dmcontrol w ∉ before) ∧ (∀ w, .write .dmcontrol w ∉ after) ∧
    (TransportCall.carryOut before s.transport).registers.get Catalog.dcsrNumber =
      (v ||| stepBit).setWidth 128 ∧
    (TransportCall.carryOut before s.transport).registerWrites ++
      [(Catalog.dcsrNumber, (v &&& ~~~ stepBit).setWidth 128)] = s.transport.registerWrites ++ stepWrites v

/-- Calls that give `dmcontrol` no value do not write it. -/
theorem notMem_of_controlWrites {calls : List TransportCall} (none : controlWrites calls = []) (w : Word) :
    .write .dmcontrol w ∉ calls := by
  intro mem
  have given := List.filterMap_eq_nil_iff.1 none _ mem
  rw [TransportCall.control?, if_pos rfl] at given
  cases given

/-- **The calls of a step**: if its first half answers and the request gets through, then there is one request, and
no other in either half. -/
theorem calls_step [Transport τ] {s u u' : Session τ} {v : Word} (armed : armStep.exec s = (.ok v, u))
    (asked : (request Dmcontrol.resumereq).exec u = (.ok (), u')) :
    ∃ before after,
      (step.exec s.traced).2.transport.calls =
        before ++ .write .dmcontrol (Dmcontrol.request Dmcontrol.resumereq) :: after ∧
      controlWrites before = [] ∧ controlWrites after = [] ∧
      TransportCall.carryOut before s.transport = u.transport := by
  obtain ⟨same, alike⟩ := simulates_armStep s.traced s (alike_traced s)
  have issued := issues_armStep s.traced
  have told := told_armStep s.traced
  rw [armed] at same alike
  rw [exec_step, Action.exec_bind]
  generalize armStep.exec s.traced = ran at same alike issued told ⊢
  obtain ⟨outcome, t⟩ := ran
  obtain rfl : outcome = .ok v := same
  obtain ⟨before, listed, -, -, none_before⟩ := issued
  obtain ⟨calls, listed', there⟩ := told
  obtain rfl : before = calls := List.append_cancel_left (listed.symm.trans listed')
  have answered := (simulates_request agree_traced Dmcontrol.resumereq t u alike).1
  rw [asked] at answered
  have requested : ((request Dmcontrol.resumereq).exec t).2.transport.calls =
      t.transport.calls ++ [.write .dmcontrol (Dmcontrol.request Dmcontrol.resumereq)] := rfl
  dsimp only
  rw [finishStep, Action.exec_bind]
  generalize (request Dmcontrol.resumereq).exec t = ran at answered requested ⊢
  obtain ⟨outcome, t'⟩ := ran
  obtain rfl : outcome = .ok () := answered
  have clearing : Issues [] (do
      writeDcsr (τ := Traced τ) (v &&& ~~~ stepBit)
      modify fun s : Session (Traced τ) => { s with dcsrShadow := v &&& ~~~ stepBit }) :=
    (issues_writeRegister _ _ _).bind fun _ => issues_modify fun _ => rfl
  obtain ⟨after, rest, -, part, -⟩ := clearing t'
  refine ⟨before, after, ?_, none_before v rfl, List.prefix_nil.1 part, ?_⟩
  · refine rest.trans ?_
    rw [requested, listed, List.append_assoc]
    rfl
  · exact there.symm.trans alike.transport

/-- **A step changes the step bit alone**, and only for the time of the step: on a connected module that takes
commands and has `dcsr`, at every width, if each of the two or three commands drains in time. -/
theorem step_changes_step_bit {s : Session SimulatedModule} {v : Word} (connected : s.transport.connected = true)
    (clear : s.transport.cmderr = 0) (idle : s.transport.busyLeft = 0) (free : s.transport.stuckBusy = false)
    (implemented : Catalog.dcsrNumber ∉ s.transport.unimplemented)
    (held : s.transport.registers.get Catalog.dcsrNumber = v.setWidth 128)
    (drains : ∀ k < (stepValues v).length + 1, s.DrainsAt k) : s.StepsFrom v := by
  obtain ⟨before, t, armed, follows, length, changed, set, writes⟩ :=
    exec_armStep connected implemented ⟨clear, idle, free⟩ held fun k below => drains k (by omega)
  obtain ⟨u, finished, changed', cleared, writes'⟩ :=
    exec_finishStep_of_follows connected implemented follows (drains before.length (by omega)) v
  have ran : step.exec s = (.ok (), u) := by
    rw [exec_step, Action.exec_bind_ok armed, finished]
  have asked : (request Dmcontrol.resumereq).exec t = (.ok (), _) :=
    exec_writeDmi (follows.setUp.connected.trans connected) .dmcontrol _
  obtain ⟨same, alike⟩ := simulates_step agree_traced s.traced s (alike_traced s)
  obtain ⟨calls, calls', listed, none_before, none_after, there⟩ := calls_step armed asked
  rw [control_resume] at changed'
  constructor
  case outcome => exact same
  case transport => exact alike.transport
  case requested =>
    refine ⟨calls, calls', listed, notMem_of_controlWrites none_before, notMem_of_controlWrites none_after, ?_⟩
    rw [there]
    exact ⟨set, writes⟩
  all_goals rw [ran]
  case dcsr => exact cleared
  case others => exact fun n other => (changed'.registers n other).trans (changed.registers n other)
  case progbuf => exact changed'.progbuf.trans changed.progbuf
  case haltOnReset => exact changed'.haltOnReset.trans changed.haltOnReset
  case haveReset => exact changed'.haveReset.trans changed.haveReset
  case running => exact changed'.halted
  case acknowledged => exact changed'.resumeAcknowledged
  case writes => exact writes'.trans writes

/-- A halted hart is stepped at a width of 128 bits, over a module whose commands are seen busy twice. -/
theorem step_changes_step_bit_while_draining :
    let m : SimulatedModule :=
      { connected := true, halted := true, busyReads := 2, registers := ({} : RegisterFile).set 0x7b0 0x40000003 }
    let s : Session SimulatedModule := .fresh m { width := some .w128 } { clock := .steady 1 (by decide) }
    (∀ k < (stepValues 0x40000003).length + 1, s.DrainsAt k) ∧ s.StepsFrom 0x40000003 ∧
      stepWrites 0x40000003 = [(0x7b0, 0x40000007), (0x7b0, 0x40000003)] := by
  intro m s
  have drains : ∀ k < (stepValues 0x40000003).length + 1, s.DrainsAt k := by
    intro k _ i reads
    have twice : i < 2 := reads
    show (0 + k * (2 + 1) + 1 + i) * 1 + i * 50000000 < (0 + k * (2 + 1)) * 1 + 2000000000
    omega
  exact ⟨drains, step_changes_step_bit rfl rfl rfl rfl (by decide) (by decide) drains, by decide⟩

end Session

end HartDebug
