import HartDebug.Proofs.Vector.ScanPort
import HartDebug.Session.Operation

/-!
# What a recording grows by

Each access to a recording adds directives at its end and changes nothing that was recorded before.  What
an access adds is given here once, together with what a test access port makes of it.

* `VectorEmitter.steps` — what a recording has a port do;
* `VectorEmitter.Extends` — a recording that began as another one;
* `exec_write`, `exec_expect`, `exec_expectIdcode`, `exec_resetTap`, `exec_idle` — **the steps of each
  access**.
-/

namespace HartDebug

namespace VectorEmitter

/-- What a recording has a test access port do. -/
def steps (e : VectorEmitter) : List PortStep :=
  e.directives.filterMap Directive.portStep?

/-- The recording can be read back line by line. -/
def OneLine (e : VectorEmitter) : Prop :=
  ∀ d ∈ e.directives, d.IsOneLine

/-- A recording that began as another one. -/
def Extends (e e' : VectorEmitter) : Prop :=
  ∃ added, (∀ d ∈ added, d.IsOneLine) ∧ e'.directives = e.directives ++ added

namespace Extends

theorem refl (e : VectorEmitter) : Extends e e :=
  ⟨[], by simp, by simp⟩

theorem trans {a b c : VectorEmitter} (h : Extends a b) (h' : Extends b c) : Extends a c := by
  obtain ⟨first, first_lines, rfl_b⟩ := h
  obtain ⟨second, second_lines, rfl_c⟩ := h'
  refine ⟨first ++ second, ?_, by rw [rfl_c, rfl_b, List.append_assoc]⟩
  intro d mem
  rcases List.mem_append.1 mem with mem | mem
  · exact first_lines d mem
  · exact second_lines d mem

theorem oneLine {e e' : VectorEmitter} (h : Extends e e') (lines : e.OneLine) : e'.OneLine := by
  obtain ⟨added, added_lines, grown⟩ := h
  intro d mem
  rw [grown] at mem
  rcases List.mem_append.1 mem with mem | mem
  · exact lines d mem
  · exact added_lines d mem

theorem steps {e e' : VectorEmitter} (h : Extends e e') :
    ∃ more, e'.steps = e.steps ++ more := by
  obtain ⟨added, -, grown⟩ := h
  exact ⟨added.filterMap Directive.portStep?, by
    rw [VectorEmitter.steps, grown, List.filterMap_append, VectorEmitter.steps]⟩

end Extends

/-- The recording with directives added at its end and an instruction selected. -/
def adding (e : VectorEmitter) (added : List Directive) (i : Instruction) : VectorEmitter :=
  { e with directives := e.directives ++ added, selected := i }

/-- The directive that selects an instruction, unless it is selected already. -/
def selecting (e : VectorEmitter) (i : Instruction) : List Directive :=
  if e.selected = i then [] else [.select i]

/-- What selecting an instruction has a port do. -/
def selectSteps (e : VectorEmitter) (i : Instruction) : List PortStep :=
  if e.selected = i then [] else [ScanPort.selectStep i]

theorem adding_adding (e : VectorEmitter) (first second : List Directive) (i j : Instruction) :
    (e.adding first i).adding second j = e.adding (first ++ second) j := by
  simp [adding]

theorem steps_adding (e : VectorEmitter) (added : List Directive) (i : Instruction) :
    (e.adding added i).steps = e.steps ++ added.filterMap Directive.portStep? := by
  simp [steps, adding]

theorem portSteps_selecting (e : VectorEmitter) (i : Instruction) :
    (e.selecting i).filterMap Directive.portStep? = e.selectSteps i := by
  rw [selecting, selectSteps]
  split
  · rfl
  · rw [List.filterMap_cons_some (ScanPort.portStep?_select i), List.filterMap_nil]

theorem isOneLine_selecting (e : VectorEmitter) (i : Instruction) :
    ∀ d ∈ e.selecting i, d.IsOneLine := by
  intro d mem
  rw [selecting] at mem
  split at mem
  · cases mem
  · rw [List.mem_singleton.1 mem, Directive.select]
    trivial

/-- A recording that grows by a selection and by further directives of a line each. -/
theorem extends_selecting (e : VectorEmitter) (i : Instruction) {added : List Directive}
    (lines : ∀ d ∈ added, d.IsOneLine) : Extends e (e.adding (e.selecting i ++ added) i) := by
  refine ⟨e.selecting i ++ added, ?_, rfl⟩
  intro d mem
  rcases List.mem_append.1 mem with mem | mem
  · exact isOneLine_selecting e i d mem
  · exact lines d mem

/-! ### The accesses -/

theorem exec_select (i : Instruction) (e : VectorEmitter) :
    (select i).exec e = (.ok (), e.adding (e.selecting i) i) := by
  rw [select, Action.exec_bind_ok (Action.exec_get e), adding, selecting]
  by_cases selected : e.selected = i
  · rw [if_neg (by simpa using selected), if_pos selected, List.append_nil, ← selected]
    rfl
  · rw [if_pos selected, if_neg selected]
    rfl

theorem exec_push (d : Directive) (e : VectorEmitter) :
    (push d).exec e = (.ok (), e.adding [d] e.selected) := rfl

/-- The recording after a write. -/
def writing (e : VectorEmitter) (address : BusAddress) (data : Word) : VectorEmitter :=
  e.adding (e.selecting .dmi ++ [.shift .dmi (BusRequest.write.word address data)]) .dmi

/-- **A write** is a scan of the request. -/
theorem exec_write (address : BusAddress) (data : Word) (e : VectorEmitter) :
    (Bus.write address data).exec e = (.ok (), e.writing address data) := by
  show (select .dmi >>= fun _ => push (.shift .dmi (BusRequest.write.word address data))).exec e = _
  rw [Action.exec_bind_ok (exec_select .dmi e), exec_push, adding_adding]
  rfl

/-- The recording after a write to the register of the debug transport. -/
def writingDtmcs (e : VectorEmitter) (value : Word) : VectorEmitter :=
  e.adding (e.selecting .dtmcs ++ [.shift .dtmcs (value.setWidth 64)]) .dtmcs

theorem exec_writeDtmcs (value : Word) (e : VectorEmitter) :
    (Bus.writeDtmcs value).exec e = (.ok (), e.writingDtmcs value) := by
  show (select .dtmcs >>= fun _ => push (.shift .dtmcs (value.setWidth 64))).exec e = _
  rw [Action.exec_bind_ok (exec_select .dtmcs e), exec_push, adding_adding]
  rfl

/-- The scans of an expectation: one that asks, and one that compares the answer. -/
def expectation (address : BusAddress) (expected mask : Word) : List Directive :=
  [.shift .dmi (BusRequest.read.word address 0),
    .compare .dmi (BusRequest.nothing.word 0 0) (expected.setWidth 64 <<< 2)
      ((mask.setWidth 64 <<< 2) ||| 3)]

/-- The recording after an expectation. -/
def expecting (e : VectorEmitter) (address : BusAddress) (expected mask : Word) : VectorEmitter :=
  e.adding (e.selecting .dmi ++ expectation address expected mask) .dmi

/-- **An expectation** is a scan that asks, and one that compares the answer. -/
theorem exec_expect (address : BusAddress) (expected mask : Word) (e : VectorEmitter) :
    (Transport.expect address expected mask).exec e =
      (.ok .deferred, e.expecting address expected mask) := by
  show (select .dmi >>= fun _ => push (.shift .dmi (BusRequest.read.word address 0)) >>= fun _ =>
    push (.compare .dmi (BusRequest.nothing.word 0 0) (expected.setWidth 64 <<< 2)
      ((mask.setWidth 64 <<< 2) ||| 3)) >>= fun _ => pure Check.deferred).exec e = _
  rw [Action.exec_bind_ok (exec_select .dmi e), Action.exec_bind_ok (exec_push _ _),
    Action.exec_bind_ok (exec_push _ _), Action.exec_pure, adding_adding, adding_adding]
  rfl

/-- The recording after an expectation of the identification. -/
def expectingIdcode (e : VectorEmitter) (expected : Word) : VectorEmitter :=
  e.adding (e.selecting .idcode ++ [.compare .idcode 0 (expected.setWidth 64) 0xffffffff]) .idcode

theorem exec_expectIdcode (expected : Word) (e : VectorEmitter) :
    (Transport.expectIdcode expected).exec e = (.ok .deferred, e.expectingIdcode expected) := by
  show (select .idcode >>= fun _ => push (.compare .idcode 0 (expected.setWidth 64) 0xffffffff) >>=
    fun _ => pure Check.deferred).exec e = _
  rw [Action.exec_bind_ok (exec_select .idcode e), Action.exec_bind_ok (exec_push _ _),
    Action.exec_pure, adding_adding]
  rfl

/-- The recording after a reset of the port. -/
def resetting (e : VectorEmitter) : VectorEmitter :=
  e.adding [.reset, .idle] .idcode

theorem exec_resetTap (e : VectorEmitter) :
    (Bus.resetTap : Action DebugError VectorEmitter Unit).exec e = (.ok (), e.resetting) := by
  show (push .reset >>= fun _ => push .idle >>= fun _ =>
    modify fun e : VectorEmitter => { e with selected := .idcode }).exec e = _
  rw [Action.exec_bind_ok (exec_push _ _), Action.exec_bind_ok (exec_push _ _), Action.exec_modify]
  simp [adding, resetting]

/-- The recording after clock cycles in which the port idles. -/
def idling (e : VectorEmitter) (cycles : Nat) : VectorEmitter :=
  e.adding [.runTest cycles] e.selected

theorem exec_idle (cycles : Nat) (e : VectorEmitter) :
    (Transport.idle cycles).exec e = (.ok (), e.idling cycles) := rfl

/-- Writing the recording to its file leaves the recording as it was. -/
theorem exists_finish (e : VectorEmitter) : ∃ disk, (finish.exec e).2 = { e with disk := disk } := by
  obtain ⟨directives, selected, output, disk⟩ := e
  cases output with
  | none => exact ⟨disk, rfl⟩
  | some path =>
    rw [finish, Action.exec_bind_ok (Action.exec_get _)]
    dsimp only
    cases disk.write path _ with
    | error fault => exact ⟨disk, rfl⟩
    | ok written => exact ⟨written, rfl⟩

theorem directives_finish (e : VectorEmitter) : (finish.exec e).2.directives = e.directives := by
  obtain ⟨disk, kept⟩ := exists_finish e
  rw [kept]

theorem selected_finish (e : VectorEmitter) : (finish.exec e).2.selected = e.selected := by
  obtain ⟨disk, kept⟩ := exists_finish e
  rw [kept]

/-! ### Each access adds at the end -/

theorem extends_write (e : VectorEmitter) (address : BusAddress) (data : Word) :
    Extends e (e.writing address data) :=
  extends_selecting e .dmi (by simp [Directive.shift, Directive.IsOneLine])

theorem extends_expect (e : VectorEmitter) (address : BusAddress) (expected mask : Word) :
    Extends e (e.expecting address expected mask) :=
  extends_selecting e .dmi
    (by simp [expectation, Directive.shift, Directive.compare, Directive.IsOneLine])

theorem extends_expectIdcode (e : VectorEmitter) (expected : Word) :
    Extends e (e.expectingIdcode expected) :=
  extends_selecting e .idcode (by simp [Directive.compare, Directive.IsOneLine])

theorem extends_resetTap (e : VectorEmitter) : Extends e e.resetting :=
  ⟨_, by simp [Directive.IsOneLine], rfl⟩

theorem extends_idle (e : VectorEmitter) (cycles : Nat) : Extends e (e.idling cycles) :=
  ⟨_, by simp [Directive.IsOneLine], rfl⟩

/-! ### Their steps -/

theorem portStep?_shift (i : Instruction) (value : BitVec 64) :
    (Directive.shift i value).portStep? = some (ScanPort.shiftStep i value none) := rfl

theorem portSteps_expectation (address : BusAddress) (expected mask : Word) :
    (expectation address expected mask).filterMap Directive.portStep? =
      [ScanPort.shiftStep .dmi (BusRequest.read.word address 0) none,
        ScanPort.expectStep expected mask] := rfl

theorem portStep?_expectIdcode (expected : Word) :
    (Directive.compare .idcode 0 (expected.setWidth 64) 0xffffffff).portStep? =
      some (ScanPort.expectIdcodeStep expected) := rfl

end VectorEmitter

/-! ### Sessions that record -/

namespace Session

open VectorEmitter

variable (t : Session VectorEmitter)

theorem exec_writeDmi_recording (address : BusAddress) (data : Word) :
    (writeDmi address data).exec t =
      (.ok (), t.withTransport (t.transport.writing address data)) := by
  rw [writeDmi, Action.exec_bind_ok (Action.exec_log _ _ _ t), exec_onTransport,
    exec_write address data]

/-- An expectation that is recorded is met for now. -/
theorem exec_expectDmi_recording (address : BusAddress) (expected mask : Word) (failure : String) :
    (expectDmi address expected mask failure).exec t =
      (.ok (), t.withTransport (t.transport.expecting address expected mask)) := by
  rw [expectDmi, Action.exec_bind_ok
    (by rw [exec_onTransport, exec_expect address expected mask])]
  rfl

theorem exec_idle_recording (cycles : Nat) :
    (onTransport (Transport.idle cycles)).exec t =
      (.ok (), t.withTransport (t.transport.idling cycles)) := by
  rw [exec_onTransport, exec_idle]

theorem isLive_recording : t.isLive = false := rfl

/-- Waiting for a command is recorded as time to finish in and an expectation that it has. -/
theorem exec_waitForCommand_recording :
    waitForCommand.exec t =
      (.ok (), t.withTransport
        ((t.transport.idling t.config.settleCycles).expecting .abstractcs 0
          Abstractcs.unfinished)) := by
  rw [waitForCommand, Action.exec_bind_ok (Action.exec_get t), isLive_recording,
    if_neg (by decide), Action.exec_bind_ok (Action.exec_get t),
    Action.exec_bind_ok (exec_idle_recording t _), exec_expectDmi_recording]
  rfl

theorem exec_clearCommandError_recording :
    clearCommandError.exec t =
      (.ok (), t.withTransport
        ((t.transport.writing .abstractcs Abstractcs.cmderr.mask).expecting .abstractcs 0
          Abstractcs.cmderr.mask)) := by
  rw [clearCommandError, Action.exec_bind_ok (exec_writeDmi_recording t _ _),
    Action.exec_bind_ok (Action.exec_get _), isLive_recording, if_neg (by decide),
    exec_expectDmi_recording]
  rfl

end Session

end HartDebug
