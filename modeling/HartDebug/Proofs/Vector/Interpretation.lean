import HartDebug.Proofs.Vector.Recording
import HartDebug.Transport.Call
import Mathlib.Algebra.Group.Nat.Defs

/-!
# A recording says what was asked for

A vector script is interpreted without knowing who wrote it: line by line, with nothing but the opcode that
the lines before have left in the instruction register.  What a recording was asked for comes out again,
call by call and with every argument.

* `Interpretation` — the opcode in the instruction register, the call that is not complete yet, and the
  calls made out so far;
* `Interpretation.step`, `Script.calls?` — one line, and all lines of a script;
* `PortStep.Suits` — a scan stands where its register is selected, and no instruction is selected twice;
* `StandsFor` — lines that stand for calls, with `StandsFor.append`;
* `standsFor_write`, `standsFor_expect`, `standsFor_resetTap` — **the lines of each call**;
* `artifact_calls` — **a recording reads back as the calls it was asked for**.
-/

namespace HartDebug

/-! ## The instruction register -/

namespace PortStep

/-- The opcode in the instruction register after a line.  The register captures a one in its lowest bit; a
reset of the port selects the identification. -/
def opcodeAfter (held : Nat) : PortStep → Nat
  | .scanInstruction scan => (shiftThrough Instruction.registerLength 1 scan).2
  | .reset => 0x01
  | _ => held

/-- The line suits the opcode that it finds in the instruction register: a data scan is as long as the
register it is meant for, and an instruction is scanned only in place of another one. -/
def Suits (held : Nat) : PortStep → Prop
  | .scanInstruction scan => opcodeAfter held (.scanInstruction scan) ≠ held
  | .scanData scan =>
    (scan.length = 41 ∧ held = 0x11) ∨
    (scan.length = 32 ∧ scan.expected = none ∧ held = 0x10) ∨
    (scan.length = 32 ∧ scan.expected ≠ none ∧ held = 0x01)
  | _ => True

end PortStep

/-- The opcode in the instruction register after lines; the identification is selected at first. -/
def heldAfter (lines : List PortStep) : Nat :=
  lines.foldl PortStep.opcodeAfter 0x01

/-! ## Interpreting a script -/

/-- What the lines so far still wait for. -/
inductive Awaited where
  | nothing
  /-- The scan that compares the answer to a read request. -/
  | answer (address : BusAddress)
  /-- The idle state after a reset. -/
  | idle
  deriving DecidableEq, Repr

/-- What has been made out of the lines so far. -/
structure Interpretation where
  opcode : Nat := 0x01
  awaited : Awaited := .nothing
  calls : List TransportCall := []
  deriving DecidableEq, Repr

namespace Interpretation

/-- One more call is complete. -/
def calling (p : Interpretation) (call : TransportCall) : Interpretation :=
  { p with awaited := .nothing, calls := p.calls ++ [call] }

/-- A request to the debug bus: an address, a word and an operation. -/
def requested (p : Interpretation) (bits : Nat) : Option Interpretation :=
  let address := BitVec.ofNat 8 (bits / 2 ^ 34)
  if bits % 4 = 1 then some { p with awaited := .answer address }
  else if bits % 4 = 2 then some (p.calling (.write address (BitVec.ofNat 32 (bits / 4))))
  else none

/-- A data scan that begins a call. -/
def scanned (p : Interpretation) (scan : Scan) : Option Interpretation :=
  match p.opcode, scan.length, scan.expected with
  | 0x11, 41, none => p.requested (scan.tdi % 2 ^ 41)
  | 0x10, 32, none => some (p.calling (.writeDtmcs (BitVec.ofNat 32 scan.tdi)))
  | 0x01, 32, some (tdo, 0xffffffff) => some (p.calling (.expectIdcode (BitVec.ofNat 32 tdo)))
  | _, _, _ => none

/-- The data scan after a read request: it asks for nothing and compares the operation field, which is to
be zero, and the bits of the answer that count. -/
def answered (p : Interpretation) (address : BusAddress) (scan : Scan) : Option Interpretation :=
  match p.opcode, scan.length, scan.expected with
  | 0x11, 41, some (tdo, mask) =>
    if scan.tdi % 4 = 0 ∧ tdo % 4 = 0 ∧ mask % 4 = 3 then
      some (p.calling (.expect address (BitVec.ofNat 32 (tdo / 4)) (BitVec.ofNat 32 (mask / 4))))
    else none
  | _, _, _ => none

/-- Take one more line in, unless it stands for no call. -/
def step (p : Interpretation) (line : PortStep) : Option Interpretation :=
  match p.awaited, line with
  | .nothing, .scanInstruction _ => some { p with opcode := line.opcodeAfter p.opcode }
  | .nothing, .scanData scan => p.scanned scan
  | .nothing, .reset => some { p with opcode := line.opcodeAfter p.opcode, awaited := .idle }
  | .nothing, .runTest cycles => some (p.calling (.idle cycles))
  | .answer address, .scanData scan => p.answered address scan
  | .idle, .idle => some (p.calling .resetTap)
  | _, _ => none

/-- Take lines in one after another. -/
def run : List PortStep → Interpretation → Option Interpretation
  | [], p => some p
  | line :: rest, p => (p.step line).bind (run rest)

theorem run_append (first second : List PortStep) (p : Interpretation) :
    run (first ++ second) p = (run first p).bind (run second) := by
  induction first generalizing p with
  | nil => rfl
  | cons line rest ih =>
    rw [List.cons_append, run, run, Option.bind_assoc]
    congr 1
    funext q
    exact ih q

end Interpretation

/-- The calls that lines stand for, if they stand for complete calls. -/
def Script.calls? (lines : List PortStep) : Option (List TransportCall) :=
  (Interpretation.run lines {}).bind fun p => if p.awaited = .nothing then some p.calls else none

/-! ## Lines that suit the instruction register -/

/-- Each line suits the opcode that the lines before it leave in the instruction register. -/
def Suited (held : Nat) (lines : List PortStep) : Prop :=
  ∀ before line after, lines = before ++ line :: after →
    line.Suits (before.foldl PortStep.opcodeAfter held)

theorem suited_nil (held : Nat) : Suited held [] := by
  intro before line after h
  simp at h

theorem suited_cons_iff {held : Nat} {line : PortStep} {lines : List PortStep} :
    Suited held (line :: lines) ↔ line.Suits held ∧ Suited (line.opcodeAfter held) lines := by
  constructor
  · intro h
    refine ⟨h [] line lines rfl, fun before other after split => ?_⟩
    exact h (line :: before) other after (by rw [split, List.cons_append])
  · rintro ⟨here, rest⟩ before other after split
    cases before with
    | nil =>
      obtain ⟨rfl, -⟩ := List.cons.inj split
      exact here
    | cons first before =>
      obtain ⟨rfl, later⟩ := List.cons.inj split
      exact rest before other after later

theorem Suited.append {held : Nat} {lines lines' : List PortStep} (first : Suited held lines)
    (second : Suited (lines.foldl PortStep.opcodeAfter held) lines') :
    Suited held (lines ++ lines') := by
  induction lines generalizing held with
  | nil => exact second
  | cons line rest ih =>
    obtain ⟨here, after⟩ := suited_cons_iff.1 first
    exact suited_cons_iff.2 ⟨here, ih after second⟩

/-! ## Lines that stand for calls -/

/-- Wherever the opcode is `held`, the lines stand for the calls, each line suits what it finds in the
instruction register, and the opcode is `left` in the end. -/
structure StandsFor (held : Nat) (lines : List PortStep) (calls : List TransportCall) (left : Nat) :
    Prop where
  run : ∀ sofar, Interpretation.run lines ⟨held, .nothing, sofar⟩ =
    some ⟨left, .nothing, sofar ++ calls⟩
  opcode : lines.foldl PortStep.opcodeAfter held = left
  suited : Suited held lines

theorem StandsFor.nil (held : Nat) : StandsFor held [] [] held where
  run sofar := by simp [Interpretation.run]
  opcode := rfl
  suited := suited_nil held

/-- **Lines after lines stand for calls after calls.** -/
theorem StandsFor.append {held middle left : Nat} {lines lines' : List PortStep}
    {calls calls' : List TransportCall} (first : StandsFor held lines calls middle)
    (second : StandsFor middle lines' calls' left) :
    StandsFor held (lines ++ lines') (calls ++ calls') left where
  run sofar := by
    rw [Interpretation.run_append, first.run, Option.bind_some, second.run, List.append_assoc]
  opcode := by rw [List.foldl_append, first.opcode, second.opcode]
  suited := first.suited.append (by rw [first.opcode]; exact second.suited)

/-! ## The lines of each call -/

open VectorEmitter ScanPort

/-- An instruction is selected by a line where it is not selected already, and by none where it is. -/
theorem standsFor_select (e : VectorEmitter) (i : Instruction) :
    StandsFor e.selected.opcode.toNat (e.selectSteps i) [] i.opcode.toNat := by
  rw [selectSteps]
  split
  · next selected =>
    rw [selected]
    exact .nil _
  · next other =>
    have opcode : (selectStep i).opcodeAfter e.selected.opcode.toNat = i.opcode.toNat := by
      cases i <;> rfl
    refine ⟨fun sofar => ?_, opcode, suited_cons_iff.2 ⟨?_, suited_nil _⟩⟩
    · rw [List.append_nil, Interpretation.run, ← opcode]
      rfl
    · intro same
      have both : i.opcode.toNat = e.selected.opcode.toNat := opcode.symm.trans same
      revert other both
      cases e.selected <;> cases i <;> decide

/-- What a port gets of the scan of a request whose address has seven bits. -/
theorem bits_request (r : BusRequest) {address : BusAddress} (ha : address.toNat < 0x80) (data : Word) :
    scanValue (scanBytes Instruction.dmi.dataLength (r.word address data)) % 2 ^ 41 =
      address.toNat * 2 ^ 34 + data.toNat * 4 + r.opcode.toNat := by
  rw [show (41 : Nat) = Instruction.dmi.dataLength from rfl, scanValue_scanBytes_mod,
    toNat_word_mod r ha data]

namespace Interpretation

theorem requested_write (p : Interpretation) (address : BusAddress) (data : Word) :
    p.requested (address.toNat * 2 ^ 34 + data.toNat * 4 + 2) =
      some (p.calling (.write address data)) := by
  have hd : data.toNat < 2 ^ 32 := data.isLt
  rw [requested, if_neg (by omega), if_pos (by omega), data_of_bits address data (by decide),
    Nat.add_assoc, address_of_bits address (by omega)]

theorem requested_read (p : Interpretation) (address : BusAddress) (data : Word) :
    p.requested (address.toNat * 2 ^ 34 + data.toNat * 4 + 1) =
      some { p with awaited := .answer address } := by
  have hd : data.toNat < 2 ^ 32 := data.isLt
  rw [requested, if_pos (by omega), Nat.add_assoc, address_of_bits address (by omega)]

theorem answered_expect (awaited : Awaited) (sofar : List TransportCall) (address : BusAddress)
    (expected mask : Word) :
    answered ⟨0x11, awaited, sofar⟩ address
        ⟨41, 0, some (4 * expected.toNat, 4 * mask.toNat + 3)⟩ =
      some ⟨0x11, .nothing, sofar ++ [.expect address expected mask]⟩ := by
  have tdo : 4 * expected.toNat / 4 = expected.toNat := by omega
  have under : (4 * mask.toNat + 3) / 4 = mask.toNat := by omega
  show (if 0 % 4 = 0 ∧ 4 * expected.toNat % 4 = 0 ∧ (4 * mask.toNat + 3) % 4 = 3 then _ else none) = _
  rw [if_pos (by omega), tdo, under, BitVec.ofNat_toNat, BitVec.ofNat_toNat, BitVec.setWidth_eq,
    BitVec.setWidth_eq, calling]

end Interpretation

theorem standsFor_write {address : BusAddress} (ha : address.toNat < 0x80) (data : Word) :
    StandsFor 0x11 [shiftStep .dmi (BusRequest.write.word address data) none] [.write address data]
      0x11 where
  run sofar := by
    have taken : Interpretation.step ⟨0x11, .nothing, sofar⟩
        (shiftStep .dmi (BusRequest.write.word address data) none) =
          some ⟨0x11, .nothing, sofar ++ [.write address data]⟩ := by
      show Interpretation.requested ⟨0x11, .nothing, sofar⟩ (_ % 2 ^ 41) = _
      rw [bits_request .write ha data]
      exact Interpretation.requested_write _ address data
    rw [Interpretation.run, taken]
    rfl
  opcode := rfl
  suited := suited_cons_iff.2 ⟨.inl ⟨rfl, rfl⟩, suited_nil _⟩

/-- A read request and the scan that compares its answer are one call. -/
theorem standsFor_expect {address : BusAddress} (ha : address.toNat < 0x80) (expected mask : Word) :
    StandsFor 0x11
      [shiftStep .dmi (BusRequest.read.word address 0) none, expectStep expected mask]
      [.expect address expected mask] 0x11 where
  run sofar := by
    have asked : Interpretation.step ⟨0x11, .nothing, sofar⟩
        (shiftStep .dmi (BusRequest.read.word address 0) none) =
          some ⟨0x11, .answer address, sofar⟩ := by
      show Interpretation.requested ⟨0x11, .nothing, sofar⟩ (_ % 2 ^ 41) = _
      rw [bits_request .read ha 0]
      exact Interpretation.requested_read _ address 0
    have compared : Interpretation.step ⟨0x11, .answer address, sofar⟩ (expectStep expected mask) =
        some ⟨0x11, .nothing, sofar ++ [.expect address expected mask]⟩ := by
      have asks_nothing :
          scanValue (scanBytes Instruction.dmi.dataLength (BusRequest.nothing.word 0 0)) = 0 := by
        decide
      rw [expectStep, shiftStep, asks_nothing, scanValue_word, scanValue_mask]
      exact Interpretation.answered_expect (.answer address) sofar address expected mask
    rw [Interpretation.run, asked, Option.bind_some, Interpretation.run, compared]
    rfl
  opcode := rfl
  suited := suited_cons_iff.2 ⟨.inl ⟨rfl, rfl⟩, suited_cons_iff.2 ⟨.inl ⟨rfl, rfl⟩, suited_nil _⟩⟩

theorem standsFor_writeDtmcs (value : Word) :
    StandsFor 0x10 [shiftStep .dtmcs (value.setWidth 64) none] [.writeDtmcs value] 0x10 where
  run sofar := by
    have taken : Interpretation.step ⟨0x10, .nothing, sofar⟩
        (shiftStep .dtmcs (value.setWidth 64) none) =
          some ⟨0x10, .nothing, sofar ++ [.writeDtmcs value]⟩ := by
      have whole := scanValue_setWidth value
      simp [shiftStep, Instruction.dataLength, whole, Interpretation.step, Interpretation.scanned,
        Interpretation.calling]
    rw [Interpretation.run, taken]
    rfl
  opcode := rfl
  suited := suited_cons_iff.2 ⟨.inr (.inl ⟨rfl, rfl, rfl⟩), suited_nil _⟩

theorem standsFor_expectIdcode (expected : Word) :
    StandsFor 0x01 [expectIdcodeStep expected] [.expectIdcode expected] 0x01 where
  run sofar := by
    have mask : scanValue (scanBytes Instruction.idcode.dataLength 0xffffffff) = 0xffffffff := by decide
    have whole := scanValue_setWidth expected
    have taken : Interpretation.step ⟨0x01, .nothing, sofar⟩ (expectIdcodeStep expected) =
        some ⟨0x01, .nothing, sofar ++ [.expectIdcode expected]⟩ := by
      rw [expectIdcodeStep, mask]
      simp [shiftStep, Instruction.dataLength, whole, Interpretation.step, Interpretation.scanned,
        Interpretation.calling]
    rw [Interpretation.run, taken]
    rfl
  opcode := rfl
  suited := suited_cons_iff.2 ⟨.inr (.inr ⟨rfl, by simp, rfl⟩), suited_nil _⟩

/-- A reset of the port selects the identification, whatever was selected. -/
theorem standsFor_resetTap (held : Nat) : StandsFor held [.reset, .idle] [.resetTap] 0x01 where
  run _ := rfl
  opcode := rfl
  suited := suited_cons_iff.2 ⟨trivial, suited_cons_iff.2 ⟨trivial, suited_nil _⟩⟩

theorem standsFor_idle (held cycles : Nat) : StandsFor held [.runTest cycles] [.idle cycles] held where
  run _ := rfl
  opcode := rfl
  suited := suited_cons_iff.2 ⟨trivial, suited_nil _⟩

/-! ## Recordings -/

namespace TransportCall

/-- The calls that a recording keeps whole: none that reads back, and an address of seven bits. -/
def IsRecordable : TransportCall → Prop
  | .write address _ => address.toNat < 0x80
  | .expect address _ _ => address.toNat < 0x80
  | .writeDtmcs _ | .expectIdcode _ | .resetTap | .idle _ => True
  | _ => False

instance (call : TransportCall) : Decidable call.IsRecordable := by
  cases call <;> unfold IsRecordable <;> infer_instance

end TransportCall

/-- A recording that has grown by lines which stand for the calls. -/
structure GrownBy (e : VectorEmitter) (calls : List TransportCall) (e' : VectorEmitter) : Prop where
  kept : Extends e e'
  stands : ∃ added, e'.steps = e.steps ++ added ∧
    StandsFor e.selected.opcode.toNat added calls e'.selected.opcode.toNat

theorem GrownBy.refl (e : VectorEmitter) : GrownBy e [] e :=
  ⟨.refl e, [], by simp, .nil _⟩

theorem GrownBy.trans {e e' e'' : VectorEmitter} {calls calls' : List TransportCall}
    (first : GrownBy e calls e') (second : GrownBy e' calls' e'') : GrownBy e (calls ++ calls') e'' := by
  obtain ⟨added, grown, stands⟩ := first.stands
  obtain ⟨more, further, stands'⟩ := second.stands
  refine ⟨first.kept.trans second.kept, added ++ more, ?_, stands.append stands'⟩
  rw [further, grown, List.append_assoc]

/-- A call that selects an instruction and scans under it. -/
theorem grownBy_selecting (e : VectorEmitter) (i : Instruction) {added : List Directive}
    {lines : List PortStep} {calls : List TransportCall}
    (steps : added.filterMap Directive.portStep? = lines) (one_line : ∀ d ∈ added, d.IsOneLine)
    (stands : StandsFor i.opcode.toNat lines calls i.opcode.toNat) :
    GrownBy e calls (e.adding (e.selecting i ++ added) i) := by
  refine ⟨extends_selecting e i one_line, e.selectSteps i ++ lines, ?_, ?_⟩
  · rw [steps_adding, List.filterMap_append, portSteps_selecting, steps]
  · exact (standsFor_select e i).append stands

/-- **Every call that a recording keeps** adds lines that stand for it. -/
theorem grownBy_perform {call : TransportCall} (h : call.IsRecordable) (e : VectorEmitter) :
    ∃ answer e', call.perform.exec e = (.ok answer, e') ∧ GrownBy e [call] e' := by
  cases call with
  | write address data =>
    refine ⟨_, _, Action.exec_bind_ok (exec_write address data e) _, ?_⟩
    exact grownBy_selecting e .dmi rfl (by simp [Directive.shift, Directive.IsOneLine])
      (standsFor_write h data)
  | expect address expected mask =>
    refine ⟨_, _, Action.exec_map_ok (exec_expect address expected mask e) _, ?_⟩
    exact grownBy_selecting e .dmi (portSteps_expectation address expected mask)
      (by simp [expectation, Directive.shift, Directive.compare, Directive.IsOneLine])
      (standsFor_expect h expected mask)
  | writeDtmcs value =>
    refine ⟨_, _, Action.exec_bind_ok (exec_writeDtmcs value e) _, ?_⟩
    exact grownBy_selecting e .dtmcs rfl (by simp [Directive.shift, Directive.IsOneLine])
      (standsFor_writeDtmcs value)
  | expectIdcode expected =>
    refine ⟨_, _, Action.exec_map_ok (exec_expectIdcode expected e) _, ?_⟩
    exact grownBy_selecting e .idcode rfl (by simp [Directive.compare, Directive.IsOneLine])
      (standsFor_expectIdcode expected)
  | resetTap =>
    refine ⟨_, _, Action.exec_bind_ok (exec_resetTap e) _, extends_resetTap e, _, ?_,
      standsFor_resetTap _⟩
    exact steps_adding e _ _
  | idle cycles =>
    refine ⟨_, _, Action.exec_bind_ok (exec_idle cycles e) _, extends_idle e cycles, _, ?_,
      standsFor_idle _ cycles⟩
    exact steps_adding e _ _
  | _ => cases h

/-- **Every sequence of them**, by induction on the sequence. -/
theorem grownBy_performs : ∀ {calls : List TransportCall}, (∀ call ∈ calls, call.IsRecordable) →
    ∀ e : VectorEmitter, ∃ e',
      (calls.forM fun call => discard call.perform).exec e = (.ok (), e') ∧ GrownBy e calls e'
  | [], _, e => ⟨e, rfl, .refl e⟩
  | call :: rest, h, e => by
    obtain ⟨answer, middle, here, grown⟩ := grownBy_perform (h call List.mem_cons_self) e
    obtain ⟨e', later, grown'⟩ :=
      grownBy_performs (fun call' mem => h call' (List.mem_cons_of_mem call mem)) middle
    refine ⟨e', ?_, grown.trans grown'⟩
    show (discard call.perform >>= fun _ => rest.forM fun call => discard call.perform).exec e = _
    rw [Action.exec_bind_ok (Action.exec_discard_ok here), later]

/-- **A recording reads back as the calls it was asked for.**  Whatever calls are made on a new recording,
in any order and with any arguments, they all succeed, and its text can be read line by line.  Interpreted
by a port that comes out of reset with the identification selected, the lines are those calls, in order and
with all their arguments.  Each data scan stands where the register it is meant for is selected, and no line
selects the instruction that is selected already. -/
theorem artifact_calls {calls : List TransportCall} (recordable : ∀ call ∈ calls, call.IsRecordable)
    (config : SessionConfig) (disk : Disk) :
    ∃ e lines,
      (calls.forM fun call => discard call.perform).exec (VectorEmitter.forConfig config disk) =
        (.ok (), e) ∧
      Script.read e.artifact = some lines ∧
      Script.calls? lines = some calls ∧
      ∀ before line after, lines = before ++ line :: after → line.Suits (heldAfter before) := by
  obtain ⟨e, performed, grown⟩ := grownBy_performs recordable (VectorEmitter.forConfig config disk)
  obtain ⟨lines, recorded, stands⟩ := grown.stands
  have one_line : e.OneLine :=
    grown.kept.oneLine (fun d mem => absurd mem List.not_mem_nil)
  have steps : e.steps = lines := recorded
  refine ⟨e, lines, performed, ?_, ?_, stands.suited⟩
  · rw [artifact, Script.read_script one_line]
    exact congrArg some steps
  · have run : Interpretation.run lines {} = some ⟨_, .nothing, [] ++ calls⟩ := stands.run []
    rw [Script.calls?, run]
    rfl

/-- Calls of every kind, with instructions selected, left selected and lost in a reset. -/
theorem artifact_calls_of_each_kind :
    let calls : List TransportCall :=
      [.expectIdcode 0x1002ac05, .write 0x10 0x80000001, .expect 0x11 0x300 0x300, .writeDtmcs 0x10000,
        .writeDtmcs 0, .idle 20, .resetTap, .expectIdcode 0x1002ac05, .write 0x7f 0xffffffff]
    (∀ call ∈ calls, call.IsRecordable) ∧
      ∃ e lines,
        (calls.forM fun call => discard call.perform).exec (VectorEmitter.forConfig {} {}) =
          (.ok (), e) ∧
        Script.read e.artifact = some lines ∧
        Script.calls? lines = some calls ∧
        ∀ before line after, lines = before ++ line :: after → line.Suits (heldAfter before) := by
  intro calls
  have recordable : ∀ call ∈ calls, call.IsRecordable := by decide
  exact ⟨recordable, artifact_calls recordable {} {}⟩

end HartDebug
