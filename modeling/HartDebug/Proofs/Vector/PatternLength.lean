import HartDebug.Proofs.Vector.Recording
import HartDebug.Transport.Call

/-!
# How long patterns are

A scan has a length, and a pattern holds octets, as many as its length calls for.  Where the length is no
multiple of eight, the last octet has room above it, and what a recording puts there is shifted in after
the scan's own bits.  The only value that reaches that far is a request to the debug bus whose address has
eight bits: its top bit is the first one above a scan of 41.

* `Scan.Fits`, `PortStep.Fits` — every value of a scan is below the power of two of its length;
* `TransportCall.adds` — the directives that a call adds to a recording;
* `fits_adds_iff` — **what a call adds fits exactly if its address has seven bits**;
* `patterns_fit_iff` — **the same of a whole recording**.
-/

namespace HartDebug

/-! ## Values and lengths -/

/-- Every value of the scan is below the power of two of its length. -/
structure Scan.Fits (scan : Scan) : Prop where
  tdi : scan.tdi < 2 ^ scan.length
  expected : ∀ tdo mask, scan.expected = some (tdo, mask) →
    tdo < 2 ^ scan.length ∧ mask < 2 ^ scan.length

/-- The bits that are shifted in are at most one more than the scan is long, and the bits that are
expected, and their mask, fit. -/
structure Scan.FitsButOne (scan : Scan) : Prop where
  tdi : scan.tdi < 2 ^ (scan.length + 1)
  expected : ∀ tdo mask, scan.expected = some (tdo, mask) →
    tdo < 2 ^ scan.length ∧ mask < 2 ^ scan.length

namespace Scan

variable {length tdi tdo mask : Nat}

/-- Bits shifted in, and nothing expected. -/
theorem fits_plain_iff : Fits ⟨length, tdi, none⟩ ↔ tdi < 2 ^ length :=
  ⟨fun h => h.tdi, fun h => ⟨h, fun _ _ none_expected => by cases none_expected⟩⟩

theorem fitsButOne_plain (h : tdi < 2 ^ (length + 1)) : FitsButOne ⟨length, tdi, none⟩ :=
  ⟨h, fun _ _ none_expected => by cases none_expected⟩

theorem fits_compare (shifted : tdi < 2 ^ length) (expected : tdo < 2 ^ length)
    (under : mask < 2 ^ length) : Fits ⟨length, tdi, some (tdo, mask)⟩ := by
  refine ⟨shifted, fun _ _ found => ?_⟩
  obtain ⟨rfl, rfl⟩ := Prod.mk.inj (Option.some.inj found)
  exact ⟨expected, under⟩

theorem Fits.fitsButOne {scan : Scan} (h : scan.Fits) : scan.FitsButOne where
  tdi := by
    have below := h.tdi
    rw [Nat.pow_succ]
    omega
  expected := h.expected

end Scan

namespace PortStep

/-- The scan of a line, if it is one. -/
def scan? : PortStep → Option Scan
  | .scanInstruction scan => some scan
  | .scanData scan => some scan
  | _ => none

/-- A scan in the line fits. -/
def Fits (line : PortStep) : Prop :=
  ∀ scan, line.scan? = some scan → scan.Fits

/-- A scan in the line fits, but for one bit that is shifted in after the others. -/
def FitsButOne (line : PortStep) : Prop :=
  ∀ scan, line.scan? = some scan → scan.FitsButOne

theorem Fits.fitsButOne {line : PortStep} (h : line.Fits) : line.FitsButOne :=
  fun scan found => (h scan found).fitsButOne

theorem fits_scanData {scan : Scan} : (PortStep.scanData scan).Fits ↔ scan.Fits :=
  ⟨fun h => h scan rfl, fun h _ found => Option.some.inj found ▸ h⟩

end PortStep

namespace ScanPort

/-- An instruction fits its register. -/
theorem fits_selectStep (i : Instruction) : (selectStep i).Fits := by
  intro scan found
  rw [← Option.some.inj found, Scan.fits_plain_iff]
  cases i <;> decide

/-- A request as octets: nothing of it is lost, so an address of eight bits reaches above the scan. -/
theorem scanValue_request (r : BusRequest) (address : BusAddress) (data : Word) :
    scanValue (scanBytes Instruction.dmi.dataLength (r.word address data)) =
      address.toNat * 2 ^ 34 + data.toNat * 4 + r.opcode.toNat := by
  have ha : address.toNat < 2 ^ 8 := address.isLt
  have hd : data.toNat < 2 ^ 32 := data.isLt
  have hr : r.opcode.toNat < 4 := by cases r <;> decide
  rw [scanValue_scanBytes, toNat_word, Instruction.dataLength]
  exact Nat.mod_eq_of_lt (by omega)

/-- **A request fits its scan exactly if its address has seven bits.** -/
theorem fits_request_iff (r : BusRequest) (address : BusAddress) (data : Word) :
    (shiftStep .dmi (r.word address data) none).Fits ↔ address.toNat < 0x80 := by
  have hd : data.toNat < 2 ^ 32 := data.isLt
  have hr : r.opcode.toNat < 4 := by cases r <;> decide
  rw [shiftStep, PortStep.fits_scanData, Scan.fits_plain_iff, scanValue_request,
    Instruction.dataLength]
  omega

theorem fitsButOne_request (r : BusRequest) (address : BusAddress) (data : Word) :
    (shiftStep .dmi (r.word address data) none).FitsButOne := by
  have ha : address.toNat < 2 ^ 8 := address.isLt
  have hd : data.toNat < 2 ^ 32 := data.isLt
  have hr : r.opcode.toNat < 4 := by cases r <;> decide
  intro scan found
  rw [← Option.some.inj found, scanValue_request, Instruction.dataLength]
  exact Scan.fitsButOne_plain (by omega)

/-- An answer that is expected fits, whatever it is and whatever its mask. -/
theorem fits_expectStep (expected mask : Word) : (expectStep expected mask).Fits := by
  have he : expected.toNat < 2 ^ 32 := expected.isLt
  have hm : mask.toNat < 2 ^ 32 := mask.isLt
  rw [expectStep, shiftStep, PortStep.fits_scanData, scanValue_request, scanValue_word,
    scanValue_mask, Instruction.dataLength]
  exact Scan.fits_compare (by decide) (by omega) (by omega)

theorem fits_expectIdcodeStep (expected : Word) : (expectIdcodeStep expected).Fits := by
  have all : scanValue (scanBytes Instruction.idcode.dataLength 0xffffffff) = 2 ^ 32 - 1 := by decide
  have tdo : scanValue (scanBytes Instruction.idcode.dataLength (expected.setWidth 64)) =
      expected.toNat := scanValue_setWidth expected
  rw [expectIdcodeStep, shiftStep, PortStep.fits_scanData, all, tdo, Instruction.dataLength]
  exact Scan.fits_compare (by decide) expected.isLt (by decide)

theorem fits_writeDtmcs (value : Word) : (shiftStep .dtmcs (value.setWidth 64) none).Fits := by
  have tdi : scanValue (scanBytes Instruction.dtmcs.dataLength (value.setWidth 64)) = value.toNat :=
    scanValue_setWidth value
  rw [shiftStep, PortStep.fits_scanData, Scan.fits_plain_iff, tdi]
  exact value.isLt

end ScanPort

/-! ## What a call adds -/

namespace TransportCall

open VectorEmitter

/-- The call names no address above seven bits. -/
def AddressFits : TransportCall → Prop
  | .write address _ => address.toNat < 0x80
  | .expect address _ _ => address.toNat < 0x80
  | _ => True

/-- A note in the call takes one line. -/
def IsOneLine : TransportCall → Prop
  | .annotate note => '\n' ∉ note.toList
  | _ => True

/-- The directives that the call adds to a recording. -/
def adds (e : VectorEmitter) : TransportCall → List Directive
  | .write address data =>
    e.selecting .dmi ++ [.shift .dmi (BusRequest.write.word address data)]
  | .expect address expected mask => e.selecting .dmi ++ expectation address expected mask
  | .writeDtmcs value => e.selecting .dtmcs ++ [.shift .dtmcs (value.setWidth 64)]
  | .expectIdcode expected =>
    e.selecting .idcode ++ [.compare .idcode 0 (expected.setWidth 64) 0xffffffff]
  | .resetTap => [.reset, .idle]
  | .idle cycles => [.runTest cycles]
  | .annotate note => [.note note]
  | .connect | .disconnect | .read _ | .readDtmcs | .readIdcode => []

/-- **A call adds its directives at the end**, whether or not it fails. -/
theorem directives_perform (call : TransportCall) (e : VectorEmitter) :
    (call.perform.exec e).2.directives = e.directives ++ call.adds e := by
  cases call with
  | write address data => rw [perform, Action.exec_bind_ok (exec_write address data e)]; rfl
  | expect address expected mask =>
    rw [perform, Action.exec_map_ok (exec_expect address expected mask e)]
    rfl
  | writeDtmcs value => rw [perform, Action.exec_bind_ok (exec_writeDtmcs value e)]; rfl
  | expectIdcode expected => rw [perform, Action.exec_map_ok (exec_expectIdcode expected e)]; rfl
  | resetTap => rw [perform, Action.exec_bind_ok (exec_resetTap e)]; rfl
  | disconnect =>
    rw [adds, List.append_nil, ← directives_finish e]
    show ((finish >>= fun _ => pure Answer.done).exec e).2.directives = _
    rw [Action.exec_bind]
    rcases finish.exec e with ⟨_ | _, _⟩ <;> rfl
  | idle _ | annotate _ => rfl
  | connect | read _ | readDtmcs | readIdcode => exact (List.append_nil _).symm

theorem isOneLine_adds_iff (e : VectorEmitter) (call : TransportCall) :
    (∀ d ∈ call.adds e, d.IsOneLine) ↔ call.IsOneLine := by
  have selecting (i : Instruction) {added : List Directive} (lines : ∀ d ∈ added, d.IsOneLine) :
      ∀ d ∈ e.selecting i ++ added, d.IsOneLine := fun d mem =>
    (List.mem_append.1 mem).elim (isOneLine_selecting e i d) (lines d)
  cases call with
  | write _ _ | expect _ _ _ | writeDtmcs _ | expectIdcode _ =>
    refine iff_of_true (selecting _ ?_) trivial
    simp [expectation, Directive.shift, Directive.compare, Directive.IsOneLine]
  | annotate note => exact List.forall_mem_singleton
  | resetTap | idle _ | connect | disconnect | read _ | readDtmcs | readIdcode =>
    exact iff_of_true (by simp [adds, Directive.IsOneLine]) trivial

/-- The lines of a selection and of further directives. -/
theorem forall_steps_selecting (e : VectorEmitter) (i : Instruction) {added : List Directive}
    {P : PortStep → Prop} (select : P (ScanPort.selectStep i)) :
    (∀ line ∈ (e.selecting i ++ added).filterMap Directive.portStep?, P line) ↔
      ∀ line ∈ added.filterMap Directive.portStep?, P line := by
  rw [List.filterMap_append, portSteps_selecting, selectSteps]
  split
  · rw [List.nil_append]
  · rw [List.singleton_append, List.forall_mem_cons]
    exact and_iff_right select

/-- What a call has a port do in a recording. -/
def addedSteps (e : VectorEmitter) (call : TransportCall) : List PortStep :=
  (call.adds e).filterMap Directive.portStep?

/-- **What a call adds fits** exactly if the call names no address above seven bits. -/
theorem fits_adds_iff (e : VectorEmitter) (call : TransportCall) :
    (∀ line ∈ call.addedSteps e, line.Fits) ↔ call.AddressFits := by
  cases call with
  | write address data =>
    rw [addedSteps, adds, forall_steps_selecting e .dmi (ScanPort.fits_selectStep _)]
    show (∀ line ∈ [ScanPort.shiftStep .dmi (BusRequest.write.word address data) none], line.Fits) ↔ _
    rw [List.forall_mem_singleton]
    exact ScanPort.fits_request_iff _ _ _
  | expect address expected mask =>
    rw [addedSteps, adds, forall_steps_selecting e .dmi (ScanPort.fits_selectStep _),
      portSteps_expectation, List.forall_mem_cons, List.forall_mem_singleton,
      ScanPort.fits_request_iff]
    exact and_iff_left (ScanPort.fits_expectStep expected mask)
  | writeDtmcs value =>
    rw [addedSteps, adds, forall_steps_selecting e .dtmcs (ScanPort.fits_selectStep _)]
    exact iff_of_true (List.forall_mem_singleton.2 (ScanPort.fits_writeDtmcs value)) trivial
  | expectIdcode expected =>
    rw [addedSteps, adds, forall_steps_selecting e .idcode (ScanPort.fits_selectStep _)]
    exact iff_of_true (List.forall_mem_singleton.2 (ScanPort.fits_expectIdcodeStep expected)) trivial
  | resetTap | idle _ | annotate _ | connect | disconnect | read _ | readDtmcs | readIdcode =>
    refine iff_of_true ?_ trivial
    simp [addedSteps, adds, Directive.portStep?, PortStep.Fits, PortStep.scan?]

/-- At most one bit of what a call adds is too much. -/
theorem fitsButOne_adds (e : VectorEmitter) (call : TransportCall) :
    ∀ line ∈ call.addedSteps e, line.FitsButOne := by
  have harmless (h : call.AddressFits) : ∀ line ∈ call.addedSteps e, line.FitsButOne :=
    fun line mem => ((fits_adds_iff e call).2 h line mem).fitsButOne
  have selected (i : Instruction) : (ScanPort.selectStep i).FitsButOne :=
    (ScanPort.fits_selectStep i).fitsButOne
  cases call with
  | write address data =>
    rw [addedSteps, adds, forall_steps_selecting e .dmi (selected _)]
    exact List.forall_mem_singleton.2 (ScanPort.fitsButOne_request _ _ _)
  | expect address expected mask =>
    rw [addedSteps, adds, forall_steps_selecting e .dmi (selected _), portSteps_expectation,
      List.forall_mem_cons, List.forall_mem_singleton]
    exact ⟨ScanPort.fitsButOne_request _ _ _, (ScanPort.fits_expectStep expected mask).fitsButOne⟩
  | _ => exact harmless trivial

/-- Do calls one after another, whether or not they fail. -/
def attemptAll (calls : List TransportCall) : Action DebugError VectorEmitter Unit :=
  calls.forM fun call => discard call.perform.attempt

theorem exec_attemptAll_cons (call : TransportCall) (rest : List TransportCall) (e : VectorEmitter) :
    (attemptAll (call :: rest)).exec e = (attemptAll rest).exec (call.perform.exec e).2 := by
  show (discard call.perform.attempt >>= fun _ => attemptAll rest).exec e = _
  rw [Action.exec_bind_ok (Action.exec_discard_ok (Action.exec_attempt call.perform e))]

/-- What holds of the directives after a run of calls holds of those before it and of what each call has
added.  By induction on the run, for any property that a call decides whatever the recording is. -/
theorem forall_directives_iff {P : Directive → Prop} {Q : TransportCall → Prop}
    (each : ∀ e call, (∀ d ∈ adds e call, P d) ↔ Q call) (calls : List TransportCall)
    (e : VectorEmitter) :
    (∀ d ∈ ((attemptAll calls).exec e).2.directives, P d) ↔
      (∀ d ∈ e.directives, P d) ∧ ∀ call ∈ calls, Q call := by
  induction calls generalizing e with
  | nil => exact (and_iff_left fun call mem => absurd mem List.not_mem_nil).symm
  | cons call rest ih =>
    rw [exec_attemptAll_cons, ih, directives_perform, List.forall_mem_append, each,
      List.forall_mem_cons, and_assoc]

theorem forall_steps_iff {P : PortStep → Prop} {Q : TransportCall → Prop}
    (each : ∀ e call, (∀ line ∈ addedSteps e call, P line) ↔ Q call) (calls : List TransportCall)
    (config : SessionConfig) (disk : Disk) :
    (∀ line ∈ ((attemptAll calls).exec (forConfig config disk)).2.steps, P line) ↔
      ∀ call ∈ calls, Q call := by
  simp only [addedSteps, steps, List.forall_mem_filterMap] at each ⊢
  rw [forall_directives_iff each]
  exact and_iff_right fun d mem => absurd mem List.not_mem_nil

end TransportCall

/-- **When every pattern of a recording fits.**  Whatever calls are made on a new recording, and whether or
not they fail, all its patterns fit their lengths exactly if no call names an address above seven bits.  An
address of eight bits makes a pattern one bit too long; what is expected and its mask always fit.  These are
the values in the text: as long as no note breaks its line, the text reads back as these lines. -/
theorem patterns_fit_iff (calls : List TransportCall) (config : SessionConfig) (disk : Disk) :
    let e := ((TransportCall.attemptAll calls).exec (VectorEmitter.forConfig config disk)).2
    ((∀ line ∈ e.steps, line.Fits) ↔ ∀ call ∈ calls, call.AddressFits) ∧
      (∀ line ∈ e.steps, line.FitsButOne) ∧
      ((∀ call ∈ calls, call.IsOneLine) → Script.read e.artifact = some e.steps) := by
  intro e
  refine ⟨TransportCall.forall_steps_iff TransportCall.fits_adds_iff calls config disk, ?_, ?_⟩
  · have each (e : VectorEmitter) (call : TransportCall) :
        (∀ line ∈ call.addedSteps e, line.FitsButOne) ↔ True :=
      iff_true_intro (TransportCall.fitsButOne_adds e call)
    exact (TransportCall.forall_steps_iff each calls config disk).2 fun _ _ => trivial
  · intro one_line
    refine Script.read_script ?_
    refine (TransportCall.forall_directives_iff TransportCall.isOneLine_adds_iff calls _).2
      ⟨fun d mem => absurd mem List.not_mem_nil, one_line⟩

/-- The lowest address of eight bits: the line says 41 bits, and its value has 42. -/
theorem pattern_of_eight_bit_address :
    let calls : List TransportCall := [.annotate "above the debug bus", .write 0x80 0]
    let e := ((TransportCall.attemptAll calls).exec (VectorEmitter.forConfig {} {})).2
    (∀ call ∈ calls, call.IsOneLine) ∧
      (¬ ∀ line ∈ e.steps, line.Fits) ∧ (∀ line ∈ e.steps, line.FitsButOne) ∧
      Script.read e.artifact = some e.steps ∧
      e.artifact = "// above the debug bus\nSIR 5 TDI (11);\nSDR 41 TDI (020000000002);\n" := by
  intro calls e
  have one_line : ∀ call ∈ calls, call.IsOneLine := by
    have note : '\n' ∉ "above the debug bus".toList := by decide
    exact List.forall_mem_cons.2 ⟨note, List.forall_mem_singleton.2 trivial⟩
  obtain ⟨fits_iff, nearly, read⟩ := patterns_fit_iff calls {} {}
  refine ⟨one_line, fun fits => ?_, nearly, read one_line, by decide +kernel⟩
  have narrow : (0x80 : BusAddress).toNat < 0x80 := fits_iff.1 fits (.write 0x80 0) (by decide)
  exact absurd narrow (by decide)

end HartDebug
