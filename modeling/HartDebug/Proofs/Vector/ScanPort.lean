import HartDebug.Proofs.Vector.Script
import HartDebug.Target.Simulated
import HartDebug.Vector.Emitter
import Mathlib.Algebra.Group.Nat.Defs

/-!
# A test access port in front of a debug module

What a tester drives when it replays a vector script: a test access port whose data registers lead to a
simulated debug module.  A scan shifts its bits through the selected register; what was in the register
before comes out and is compared, what has been shifted in takes effect.  A request to read the bus is
answered in the next scan.

* `shiftThrough` — what a scan takes out of a shift register and leaves in it;
* `ScanPort.step`, `ScanPort.play` — one line of a script, and all of them up to the first mismatch;
* `ScanPort.replay` — a script as text;
* `ScanPort.play_append` — **a script is played piece by piece**;
* `ScanPort.step_write`, `ScanPort.step_expect`, `ScanPort.step_expectIdcode` — the scans that a recording
  consists of.
-/

namespace HartDebug

/-! ## Shift registers -/

/-- What a scan shifts out of a register of `length` bits that holds `content`, and what it leaves there.
The bits behind `content` are those that are shifted in. -/
def shiftThrough (length content : Nat) (scan : Scan) : Nat × Nat :=
  let bits := content + 2 ^ length * (scan.tdi % 2 ^ scan.length)
  (bits % 2 ^ scan.length, bits / 2 ^ scan.length)

/-- A scan of the register's own length exchanges its content. -/
theorem shiftThrough_self {length content : Nat} (h : content < 2 ^ length) {scan : Scan}
    (whole : scan.length = length) : shiftThrough length content scan = (content, scan.tdi % 2 ^ length) := by
  have low : (content + 2 ^ length * (scan.tdi % 2 ^ length)) % 2 ^ length = content := by
    rw [Nat.add_mul_mod_self_left, Nat.mod_eq_of_lt h]
  have high : (content + 2 ^ length * (scan.tdi % 2 ^ length)) / 2 ^ length = scan.tdi % 2 ^ length := by
    rw [Nat.add_mul_div_left _ _ (Nat.two_pow_pos length), Nat.div_eq_of_lt h, Nat.zero_add]
  rw [shiftThrough, whole, low, high]

namespace Scan

/-- The bits that come out are those expected, as far as they count. -/
def passes (scan : Scan) (out : Nat) : Bool :=
  match scan.expected with
  | none => true
  | some (tdo, mask) => out &&& mask == tdo &&& mask

end Scan

/-- The instruction of an opcode; any other opcode bypasses the port. -/
def Instruction.ofOpcode? (opcode : Nat) : Option Instruction :=
  [Instruction.idcode, .dtmcs, .dmi].find? fun i => i.opcode.toNat == opcode

/-! ## The port -/

/-- A test access port with a debug module behind it. -/
structure ScanPort where
  module : SimulatedModule
  /-- The instruction that is selected, or none for the bypass. -/
  selected : Option Instruction := some .idcode
  /-- The answer to the last request to read the bus. -/
  answer : Word := 0

namespace ScanPort

/-- The length of the selected data register; the bypass has a single bit. -/
def length (p : ScanPort) : Nat :=
  match p.selected with
  | none => 1
  | some i => i.dataLength

/-- What the selected data register holds before a scan.  The operation field of a `dmi` scan reads as
zero, which is success. -/
def captured (p : ScanPort) : Nat :=
  match p.selected with
  | none => 0
  | some .idcode => p.module.idcode.toNat
  | some .dtmcs => p.module.transportStatus.toNat
  | some .dmi => 4 * p.answer.toNat

/-- Take a request to the debug bus: an address, a word and an operation. -/
def request (p : ScanPort) (bits : Nat) : ScanPort :=
  let address := BitVec.ofNat 8 (bits / 2 ^ 34)
  if bits % 4 = 1 then
    { p with module := (p.module.readBus address).2, answer := (p.module.readBus address).1 }
  else if bits % 4 = 2 then
    { p with module := p.module.writeBus address (BitVec.ofNat 32 (bits / 4)) }
  else p

/-- What was shifted into the selected data register takes effect. -/
def update (p : ScanPort) (bits : Nat) : ScanPort :=
  match p.selected with
  | some .dtmcs => { p with module := p.module.writeTransport (BitVec.ofNat 32 bits) }
  | some .dmi => p.request bits
  | _ => p

theorem update_dmi {p : ScanPort} (h : p.selected = some .dmi) (bits : Nat) :
    p.update bits = p.request bits := by
  rw [update, h]

/-- Do what one line of a script says, and tell whether what came out is as expected.  The instruction
register captures a one in its lowest bit. -/
def step (p : ScanPort) : PortStep → Bool × ScanPort
  | .scanInstruction scan =>
    let bits := shiftThrough Instruction.registerLength 1 scan
    (scan.passes bits.1, { p with selected := Instruction.ofOpcode? bits.2 })
  | .scanData scan =>
    let bits := shiftThrough p.length p.captured scan
    (scan.passes bits.1, p.update bits.2)
  | .reset =>
    (true, { p with
      module := { p.module with tapResets := p.module.tapResets + 1 }
      selected := some .idcode })
  | .idle => (true, p)
  | .runTest _ => (true, p)

/-- Do what the lines of a script say, up to the first whose result is not as expected. -/
def play : List PortStep → ScanPort → Bool × ScanPort
  | [], p => (true, p)
  | line :: rest, p =>
    match p.step line with
    | (true, q) => play rest q
    | (false, q) => (false, q)

/-- Replay a script, if it can be read. -/
def replay (script : String) (p : ScanPort) : Option (Bool × ScanPort) :=
  (Script.read script).map fun steps => play steps p

/-- **A script is played piece by piece**: the second piece goes on where the first has ended, unless the
first has found a mismatch. -/
theorem play_append (first second : List PortStep) (p : ScanPort) :
    play (first ++ second) p =
      if (play first p).1 = true then play second (play first p).2 else play first p := by
  induction first generalizing p with
  | nil => simp [play]
  | cons line rest ih =>
    rw [List.cons_append, play, play]
    rcases p.step line with ⟨passed, q⟩
    cases passed with
    | true => exact ih q
    | false => simp

theorem play_cons_of_step {line : PortStep} {p q : ScanPort} (h : p.step line = (true, q))
    (rest : List PortStep) : play (line :: rest) p = play rest q := by
  rw [play, h]

theorem play_singleton (line : PortStep) (p : ScanPort) : play [line] p = p.step line := by
  rw [play]
  rcases p.step line with ⟨passed, q⟩
  cases passed <;> rfl

/-! ## Patterns as numbers -/

theorem scanValue_scanBytes (length : Nat) (value : BitVec 64) :
    scanValue (scanBytes length value) = value.toNat % 256 ^ ((length + 7) / 8) := by
  rw [scanBytes]
  generalize (length + 7) / 8 = count
  induction count with
  | zero => simp [scanValue, Nat.mod_one]
  | succ count ih =>
    have octet : scanValue [UInt8.ofBitVec (value.extractLsb' (8 * count) 8)] =
        value.toNat / 256 ^ count % 256 := by
      rw [show (256 : Nat) ^ count = 2 ^ (8 * count) by rw [Nat.pow_mul]]
      simp [scanValue, Nat.shiftRight_eq_div_pow]
    rw [List.range_succ, List.map_append, Script.scanValue_append, ih, List.length_map,
      List.length_range, List.map_singleton, octet, Nat.mod_pow_succ]

/-- A pattern keeps the bits of its value that a scan of its length moves. -/
theorem scanValue_scanBytes_mod (length : Nat) (value : BitVec 64) :
    scanValue (scanBytes length value) % 2 ^ length = value.toNat % 2 ^ length := by
  rw [scanValue_scanBytes, show (256 : Nat) = 2 ^ 8 by rfl, ← Nat.pow_mul]
  exact Nat.mod_mod_of_dvd _ (Nat.pow_dvd_pow 2 (by omega))

theorem scanValue_scanBytes_of_lt {length : Nat} {value : BitVec 64} (h : value.toNat < 2 ^ length) :
    scanValue (scanBytes length value) = value.toNat := by
  have room : 2 ^ length ≤ 2 ^ (8 * ((length + 7) / 8)) := Nat.pow_le_pow_right (by omega) (by omega)
  rw [scanValue_scanBytes, show (256 : Nat) = 2 ^ 8 by rfl, ← Nat.pow_mul]
  exact Nat.mod_eq_of_lt (by omega)

/-- A request in numbers: address, data and operation do not overlap. -/
theorem toNat_word (r : BusRequest) (address : BusAddress) (data : Word) :
    (r.word address data).toNat = address.toNat * 2 ^ 34 + data.toNat * 4 + r.opcode.toNat := by
  have ha : address.toNat < 2 ^ 8 := address.isLt
  have hd : data.toNat < 2 ^ 32 := data.isLt
  have hr : r.opcode.toNat < 4 := by cases r <;> decide
  have high : (address.setWidth 64 <<< 34).toNat = address.toNat <<< 34 := by
    rw [BitVec.toNat_shiftLeft, BitVec.toNat_setWidth_of_le (by omega), Nat.shiftLeft_eq]
    exact Nat.mod_eq_of_lt (by omega)
  have middle : (data.setWidth 64 <<< 2).toNat = data.toNat <<< 2 := by
    rw [BitVec.toNat_shiftLeft, BitVec.toNat_setWidth_of_le (by omega), Nat.shiftLeft_eq]
    exact Nat.mod_eq_of_lt (by omega)
  have low : data.toNat <<< 2 ||| r.opcode.toNat = data.toNat * 4 + r.opcode.toNat := by
    rw [← Nat.shiftLeft_add_eq_or_of_lt hr, Nat.shiftLeft_eq]
  rw [BusRequest.word, BitVec.toNat_or, BitVec.toNat_or, high, middle, Nat.or_assoc, low,
    ← Nat.shiftLeft_add_eq_or_of_lt (by omega), Nat.shiftLeft_eq, Nat.add_assoc]

/-- What a port gets of a request whose address has seven bits. -/
theorem toNat_word_mod (r : BusRequest) {address : BusAddress} (ha : address.toNat < 0x80)
    (data : Word) : (r.word address data).toNat % 2 ^ Instruction.dmi.dataLength =
      address.toNat * 2 ^ 34 + data.toNat * 4 + r.opcode.toNat := by
  have hd : data.toNat < 2 ^ 32 := data.isLt
  have hr : r.opcode.toNat < 4 := by cases r <;> decide
  rw [toNat_word, Instruction.dataLength]
  exact Nat.mod_eq_of_lt (by omega)

/-- A request in numbers gives its address back. -/
theorem address_of_bits (address : BusAddress) {low : Nat} (h : low < 2 ^ 34) :
    BitVec.ofNat 8 ((address.toNat * 2 ^ 34 + low) / 2 ^ 34) = address := by
  apply BitVec.eq_of_toNat_eq
  rw [BitVec.toNat_ofNat]
  omega

/-- A request in numbers gives its word back. -/
theorem data_of_bits (address : BusAddress) (data : Word) {low : Nat} (h : low < 4) :
    BitVec.ofNat 32 ((address.toNat * 2 ^ 34 + data.toNat * 4 + low) / 4) = data := by
  have hd : data.toNat < 2 ^ 32 := data.isLt
  apply BitVec.eq_of_toNat_eq
  rw [BitVec.toNat_ofNat]
  omega

/-! ## The scans of a recording -/

/-- The step of a directive that selects an instruction. -/
def selectStep (i : Instruction) : PortStep :=
  .scanInstruction ⟨Instruction.registerLength, i.opcode.toNat, none⟩

theorem portStep?_select (i : Instruction) : (Directive.select i).portStep? = some (selectStep i) := by
  cases i <;> rfl

theorem step_select (i : Instruction) (p : ScanPort) :
    p.step (selectStep i) = (true, { p with selected := some i }) := by
  cases i <;> rfl

/-- The step of a directive that shifts a value through the data register of an instruction. -/
def shiftStep (i : Instruction) (value : BitVec 64) (expected : Option (Nat × Nat)) : PortStep :=
  .scanData ⟨i.dataLength, scanValue (scanBytes i.dataLength value), expected⟩

theorem captured_lt (p : ScanPort) : p.captured < 2 ^ p.length := by
  obtain ⟨module, selected, answer⟩ := p
  rcases selected with _ | _ | _ | _
  · exact Nat.two_pow_pos 1
  · exact module.idcode.isLt
  · exact module.transportStatus.isLt
  · have := answer.isLt
    simp only [captured, length, Instruction.dataLength]
    omega

/-- A scan of the selected register gives what was in it and leaves the value there. -/
theorem step_shift {i : Instruction} {p : ScanPort} (h : p.selected = some i) (value : BitVec 64)
    (expected : Option (Nat × Nat)) :
    p.step (shiftStep i value expected) =
      (Scan.passes ⟨i.dataLength, scanValue (scanBytes i.dataLength value), expected⟩ p.captured,
        p.update (value.toNat % 2 ^ i.dataLength)) := by
  have whole : i.dataLength = p.length := by rw [length, h]
  rw [shiftStep, step, shiftThrough_self p.captured_lt whole]
  dsimp only
  rw [← whole, scanValue_scanBytes_mod]

/-- A request is shifted in as a whole if its address has seven bits. -/
theorem step_request {p : ScanPort} (h : p.selected = some .dmi) (r : BusRequest)
    {address : BusAddress} (ha : address.toNat < 0x80) (data : Word) :
    p.step (shiftStep .dmi (r.word address data) none) =
      (true, p.request (address.toNat * 2 ^ 34 + data.toNat * 4 + r.opcode.toNat)) := by
  rw [step_shift h, toNat_word_mod r ha data, update_dmi h]
  rfl

/-- **A recorded write reaches the module.** -/
theorem step_write {p : ScanPort} (h : p.selected = some .dmi) {address : BusAddress}
    (ha : address.toNat < 0x80) (data : Word) :
    p.step (shiftStep .dmi (BusRequest.write.word address data) none) =
      (true, { p with module := p.module.writeBus address data }) := by
  have hd : data.toNat < 2 ^ 32 := data.isLt
  rw [step_request h .write ha data, show BusRequest.write.opcode.toNat = 2 from rfl, request,
    data_of_bits address data (by decide), if_neg (by omega), if_pos (by omega), Nat.add_assoc,
    address_of_bits address (by omega)]

/-- A recorded read leaves its answer for the next scan. -/
theorem step_read {p : ScanPort} (h : p.selected = some .dmi) {address : BusAddress}
    (ha : address.toNat < 0x80) :
    p.step (shiftStep .dmi (BusRequest.read.word address 0) none) =
      (true, { p with
        module := (p.module.readBus address).2
        answer := (p.module.readBus address).1 }) := by
  rw [step_request h .read ha 0, show BusRequest.read.opcode.toNat = 1 from rfl,
    show (0 : Word).toNat = 0 from rfl, request, if_pos (by omega), Nat.add_assoc,
    address_of_bits address (by decide)]

/-- Words compare under a mask as they do two bits further up, above an operation field of zero. -/
theorem and_eq_and_shifted (answer expected mask : Nat) :
    (4 * answer &&& (4 * mask + 3) == 4 * expected &&& (4 * mask + 3)) =
      (answer &&& mask == expected &&& mask) := by
  have above : ∀ n : Nat, 4 * n &&& (4 * mask + 3) = 4 * (n &&& mask) := by
    intro n
    apply Nat.eq_of_testBit_eq
    intro i
    have hn := Nat.testBit_two_pow_mul (i := 2) (j := i) (a := n)
    have hm := Nat.testBit_two_pow_mul_add mask (b := 3) (i := 2) (by decide) i
    have hr := Nat.testBit_two_pow_mul (i := 2) (j := i) (a := n &&& mask)
    simp only [Nat.reducePow] at hn hm hr
    rw [Nat.testBit_and, hn, hm, hr, Nat.testBit_and]
    by_cases low : i < 2
    · simp [show ¬ 2 ≤ i by omega]
    · rw [if_neg low, Bool.and_assoc]
  rw [above, above, Bool.eq_iff_iff, beq_iff_eq, beq_iff_eq]
  omega

/-- The scan of a word that is expected above an operation field of zero, under a mask. -/
def expectStep (expected mask : Word) : PortStep :=
  shiftStep .dmi (BusRequest.nothing.word 0 0)
    (some (scanValue (scanBytes Instruction.dmi.dataLength (expected.setWidth 64 <<< 2)),
      scanValue (scanBytes Instruction.dmi.dataLength ((mask.setWidth 64 <<< 2) ||| 3))))

theorem scanValue_word (w : Word) :
    scanValue (scanBytes Instruction.dmi.dataLength (w.setWidth 64 <<< 2)) = 4 * w.toNat := by
  have hw : w.toNat < 2 ^ 32 := w.isLt
  have value : (w.setWidth 64 <<< 2).toNat = 4 * w.toNat := by
    rw [BitVec.toNat_shiftLeft, BitVec.toNat_setWidth_of_le (by omega), Nat.shiftLeft_eq]
    omega
  rw [scanValue_scanBytes_of_lt (by rw [value, Instruction.dataLength]; omega), value]

theorem scanValue_mask (mask : Word) :
    scanValue (scanBytes Instruction.dmi.dataLength ((mask.setWidth 64 <<< 2) ||| 3)) =
      4 * mask.toNat + 3 := by
  have hm : mask.toNat < 2 ^ 32 := mask.isLt
  have shifted : (mask.setWidth 64 <<< 2).toNat = mask.toNat <<< 2 := by
    rw [BitVec.toNat_shiftLeft, BitVec.toNat_setWidth_of_le (by omega), Nat.shiftLeft_eq]
    omega
  have value : ((mask.setWidth 64 <<< 2) ||| 3).toNat = 4 * mask.toNat + 3 := by
    rw [BitVec.toNat_or, shifted, show (3 : BitVec 64).toNat = 3 from rfl,
      ← Nat.shiftLeft_add_eq_or_of_lt (by decide), Nat.shiftLeft_eq]
    omega
  rw [scanValue_scanBytes_of_lt (by rw [value, Instruction.dataLength]; omega), value]

/-- **The next scan compares the answer** and asks for nothing. -/
theorem step_expect {p : ScanPort} (h : p.selected = some .dmi) (expected mask : Word) :
    p.step (expectStep expected mask) = (p.answer &&& mask == expected &&& mask, p) := by
  have held : p.captured = 4 * p.answer.toNat := by rw [captured, h]
  have nothing : (BusRequest.nothing.word 0 0).toNat = 0 := by decide
  rw [expectStep, step_shift h, scanValue_word, scanValue_mask, Scan.passes, held, nothing,
    update_dmi h]
  dsimp only
  rw [and_eq_and_shifted, ← BitVec.toNat_and, ← BitVec.toNat_and, Nat.zero_mod, request,
    if_neg (by decide), if_neg (by decide)]
  congr 1
  rw [Bool.eq_iff_iff, beq_iff_eq, beq_iff_eq, BitVec.toNat_inj]

/-- The value of a word in a pattern of its own length. -/
theorem scanValue_setWidth (w : Word) : scanValue (scanBytes 32 (w.setWidth 64)) = w.toNat := by
  have value : (w.setWidth 64).toNat = w.toNat := BitVec.toNat_setWidth_of_le (by omega)
  rw [scanValue_scanBytes_of_lt (by rw [value]; exact w.isLt), value]

/-- The scan of an identification that is expected as a whole. -/
def expectIdcodeStep (expected : Word) : PortStep :=
  shiftStep .idcode 0
    (some (scanValue (scanBytes Instruction.idcode.dataLength (expected.setWidth 64)),
      scanValue (scanBytes Instruction.idcode.dataLength 0xffffffff)))

/-- A scan of the identification compares all of it. -/
theorem step_expectIdcode {p : ScanPort} (h : p.selected = some .idcode) (expected : Word) :
    p.step (expectIdcodeStep expected) = (p.module.idcode == expected, p) := by
  have he : expected.toNat < 2 ^ 32 := expected.isLt
  have hi : p.module.idcode.toNat < 2 ^ 32 := p.module.idcode.isLt
  have held : p.captured = p.module.idcode.toNat := by rw [captured, h]
  have mask : scanValue (scanBytes Instruction.idcode.dataLength 0xffffffff) = 2 ^ 32 - 1 := by decide
  have kept : p.update (BitVec.toNat (0 : BitVec 64) % 2 ^ Instruction.idcode.dataLength) = p := by
    rw [update, h]
  have tdo : scanValue (scanBytes Instruction.idcode.dataLength (expected.setWidth 64)) =
      expected.toNat := scanValue_setWidth expected
  rw [expectIdcodeStep, step_shift h, kept, Scan.passes, held, mask, tdo]
  dsimp only
  rw [Nat.and_two_pow_sub_one_eq_mod, Nat.and_two_pow_sub_one_eq_mod, Nat.mod_eq_of_lt hi,
    Nat.mod_eq_of_lt he]
  congr 1
  rw [Bool.eq_iff_iff, beq_iff_eq, beq_iff_eq, BitVec.toNat_inj]

end ScanPort

end HartDebug
