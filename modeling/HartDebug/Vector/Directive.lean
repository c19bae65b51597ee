import HartDebug.DebugModule
import HartDebug.Text.Hex

/-!
# Serial vector directives

The directives of a serial vector script that debug accesses are recorded as, and their text.  A
pattern's values are held as octets, least significant first, as many as its length calls for.

* `ScanPattern` — the bits that a scan shifts in, and those that it expects to shift out;
* `Directive` — a directive, or a note;
* `Directive.text` — one line of the script.
-/

namespace HartDebug

/-- The octets of a number that a scan of `length` bits holds, least significant first. -/
def scanBytes (length : Nat) (value : BitVec 64) : List Byte :=
  (List.range ((length + 7) / 8)).map fun i => UInt8.ofBitVec (value.extractLsb' (8 * i) 8)

/-- The text of octets, most significant first, without the zero octets at the front, except the
last. -/
def scanText (bytes : List Byte) : String :=
  let significant := (bytes.reverse.dropWhile (· == 0))
  String.join ((if significant.isEmpty then [0] else significant).map Hex.pair)

/-- What a scan shifts in, and what it expects to shift out under a mask. -/
structure ScanPattern where
  length : Nat
  tdi : List Byte
  /-- The expected bits, and the mask of those that count. -/
  expected : Option (List Byte × List Byte) := none
  deriving DecidableEq, Repr

def ScanPattern.text (p : ScanPattern) : String :=
  s!"{p.length} TDI ({scanText p.tdi})" ++
    match p.expected with
    | none => ""
    | some (tdo, mask) => s!" TDO ({scanText tdo}) MASK ({scanText mask})"

/-- One entry of a vector script. -/
inductive Directive where
  /-- Scan the instruction register. -/
  | scanInstruction (pattern : ScanPattern)
  /-- Scan the data register that the instruction has selected. -/
  | scanData (pattern : ScanPattern)
  /-- Go to the reset state of the test access port. -/
  | reset
  /-- Go to its idle state. -/
  | idle
  /-- Let the clock run in the idle state. -/
  | runTest (cycles : Nat)
  /-- A note for people. -/
  | note (text : String)
  deriving DecidableEq, Repr

namespace Directive

/-- The line of a directive. -/
def text : Directive → String
  | .scanInstruction p => s!"SIR {p.text};"
  | .scanData p => s!"SDR {p.text};"
  | .reset => "STATE RESET;"
  | .idle => "STATE IDLE;"
  | .runTest cycles => s!"RUNTEST {cycles} TCK;"
  | .note text => "// " ++ text

/-- The text of a script, a line for each directive. -/
def script (directives : List Directive) : String :=
  String.join (directives.map fun d => d.text ++ "\n")

/-- Select an instruction. -/
def select (i : Instruction) : Directive :=
  .scanInstruction { length := Instruction.registerLength, tdi := [UInt8.ofBitVec i.opcode] }

/-- Shift a value through the data register of an instruction. -/
def shift (i : Instruction) (tdi : BitVec 64) : Directive :=
  .scanData { length := i.dataLength, tdi := scanBytes i.dataLength tdi }

/-- Shift a value through the data register of an instruction and compare what comes out. -/
def compare (i : Instruction) (tdi tdo mask : BitVec 64) : Directive :=
  .scanData
    { length := i.dataLength
      tdi := scanBytes i.dataLength tdi
      expected := some (scanBytes i.dataLength tdo, scanBytes i.dataLength mask) }

end Directive

end HartDebug
