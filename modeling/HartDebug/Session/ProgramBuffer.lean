import HartDebug.Session.AbstractCommand

/-!
# The program buffer

Short programs that the debug module runs on a halted hart.
-/

namespace HartDebug.Session

variable {τ : Type} [Transport τ]

/-- The most words that a program buffer can have. -/
def progbufLimit : Nat := 16

/-- The most words that a program of this session can have. -/
def programLimit (s : Session τ) : Nat :=
  (s.progbufCapacity.getD progbufLimit).min progbufLimit

/-- Ask the debug module for the size of its program buffer, which later programs have to keep to. -/
def discoverProgbufSize : Action DebugError (Session τ) Nat := do
  let abstractcs ← readDmi .abstractcs
  let capacity := Abstractcs.progbufsize.get abstractcs
  Action.log .debug .abstractCommand
    (s!"Program buffer holds {capacity} words, " ++
      s!"{Abstractcs.datacount.get abstractcs} data registers available")
  modify fun s => { s with progbufCapacity := some capacity }
  pure capacity

/-- Write words into the program buffer from its `i`-th word on. -/
def loadFrom : Nat → List Word → Action DebugError (Session τ) Unit
  | _, [] => pure ()
  | i, instruction :: rest => do
    Action.log .trace .programBuffer s!"progbuf{i} <- {Hex.padded 8 instruction.toNat}"
    writeDmi (.progbuf i) instruction
    loadFrom (i + 1) rest

/-- Write a program into the program buffer; it has to fit. -/
def loadProgram (program : List Word) : Action DebugError (Session τ) Unit := do
  let capacity := (← get).programLimit
  if capacity < program.length then
    failLogged .programBuffer (.programTooLarge program.length capacity)
  else
    Action.log .debug .programBuffer
      s!"Loading {program.length} instructions into the program buffer"
    loadFrom 0 program

/-- Run the program buffer. -/
def executeProgram : Action DebugError (Session τ) Unit := do
  Action.log .debug .programBuffer "Executing the program buffer"
  writeDmi .command AccessRegister.execute
  if (← get).isLive then
    waitForCommand
  else
    onTransport (Transport.idle (← get).config.settleCycles)

end HartDebug.Session
