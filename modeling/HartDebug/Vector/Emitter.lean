import HartDebug.Config
import HartDebug.Transport
import HartDebug.Vector.Directive

/-!
# Recording vectors

A transport that performs nothing: it records every access as scans of the test access port, for a
tester or a test bench to replay.  Nothing can be read back; an expectation is recorded as a scan whose
result is compared on replay.

* `Disk` — what becomes of files that are written;
* `VectorEmitter` — the directives so far, and the instruction that they leave selected;
* `BusRequest.word` — a request to the debug bus as the bits of a scan.
-/

namespace HartDebug

/-- The files of a run: which paths refuse to be written, and what was written so far. -/
structure Disk where
  refuses : String → Option StreamFault := fun _ => none
  /-- The paths written, with their contents, in order. -/
  written : List (String × String) := []

namespace Disk

/-- Write a file as a whole. -/
def write (d : Disk) (path contents : String) : Except StreamFault Disk :=
  match d.refuses path with
  | some fault => .error fault
  | none => .ok { d with written := d.written ++ [(path, contents)] }

/-- The contents of a file, if it was written. -/
def contents? (d : Disk) (path : String) : Option String :=
  (d.written.reverse.find? (·.1 == path)).map (·.2)

end Disk

/-- What a request to the debug bus asks for. -/
inductive BusRequest where
  | nothing
  | read
  | write
  deriving DecidableEq, Repr

namespace BusRequest

def opcode : BusRequest → BitVec 64
  | .nothing => 0
  | .read => 1
  | .write => 2

/-- A request as the bits of a scan: address, data and operation, from the most significant down. -/
def word (r : BusRequest) (address : BusAddress) (data : Word) : BitVec 64 :=
  (address.setWidth 64 <<< 34) ||| (data.setWidth 64 <<< 2) ||| r.opcode

end BusRequest

/-- A recording of accesses. -/
structure VectorEmitter where
  directives : List Directive := []
  /-- The instruction that is selected; a test access port comes out of reset with its identification
  selected. -/
  selected : Instruction := .idcode
  /-- The file that the recording is written to in the end. -/
  output : Option String := none
  disk : Disk := {}

namespace VectorEmitter

/-- An empty recording for a session with these settings. -/
def forConfig (config : SessionConfig) (disk : Disk) : VectorEmitter where
  output := config.vectorOutput
  disk := disk

/-- The text of the recording. -/
def artifact (e : VectorEmitter) : String :=
  Directive.script e.directives

/-- Add a directive to the recording. -/
def push (d : Directive) : Action DebugError VectorEmitter Unit :=
  modify fun e => { e with directives := e.directives ++ [d] }

/-- Add a note to the recording. -/
def comment (text : String) : Action DebugError VectorEmitter Unit :=
  push (.note text)

/-- Select an instruction, unless it is selected already. -/
def select (i : Instruction) : Action DebugError VectorEmitter Unit := do
  if (← get).selected ≠ i then
    push (.select i)
    modify fun e => { e with selected := i }

/-- Write the recording to its file, if it has one. -/
def finish : Action DebugError VectorEmitter Unit := do
  let e ← get
  match e.output with
  | none => pure ()
  | some path =>
    match e.disk.write path e.artifact with
    | .error fault => throw (.transport (.writeVectors path) fault)
    | .ok disk =>
      set { e with disk := disk }
      Action.log .info .vectors s!"Wrote {e.directives.length} vector directives to {path}"

instance : Transport VectorEmitter where
  isLive _ := false
  connect := Action.log .debug .vectors "Starting a new vector artifact"
  disconnect := finish
  write address data := do
    select .dmi
    push (.shift .dmi (BusRequest.write.word address data))
  read _ := throw (.unsupported .busRegisters)
  writeDtmcs value := do
    select .dtmcs
    push (.shift .dtmcs (value.setWidth 64))
  readDtmcs := throw (.unsupported .dtmcs)
  readIdcode := throw (.unsupported .idcode)
  resetTap := do
    push .reset
    push .idle
    modify fun e => { e with selected := .idcode }
  -- The answer to a read request comes out with the next scan, above an operation field of zero.
  expect address expected mask := do
    select .dmi
    push (.shift .dmi (BusRequest.read.word address 0))
    push (.compare .dmi (BusRequest.nothing.word 0 0) (expected.setWidth 64 <<< 2)
      ((mask.setWidth 64 <<< 2) ||| 3))
    pure .deferred
  expectIdcode expected := do
    select .idcode
    push (.compare .idcode 0 (expected.setWidth 64) 0xffffffff)
    pure .deferred
  idle cycles := push (.runTest cycles)
  annotate := comment

end VectorEmitter

end HartDebug
