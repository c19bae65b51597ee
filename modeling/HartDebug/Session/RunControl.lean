import HartDebug.Session.HartRegister

/-!
# Run control

Halting, resuming, stepping and resetting the selected hart.  Nothing is remembered about whether the
hart runs: each operation makes its request and requires the acknowledgement that belongs to it.
-/

namespace HartDebug.Session

variable {τ : Type} [Transport τ]

/-- The bit of `dcsr` with which a resumed hart halts again after one instruction. -/
def stepBit : Word := 1 <<< 2

/-- Make a request of the debug module and nothing else. -/
def request (f : BitField) : Action DebugError (Session τ) Unit :=
  writeDmi .dmcontrol (Dmcontrol.request f)

/-- Withdraw all requests. -/
def withdraw : Action DebugError (Session τ) Unit :=
  writeDmi .dmcontrol Dmcontrol.active

def halt : Action DebugError (Session τ) Unit := do
  Action.log .info .runControl "Halting hart"
  request Dmcontrol.haltreq
  expectDmi .dmstatus Dmstatus.halted Dmstatus.halted "hart failed to halt"
  withdraw

def resume : Action DebugError (Session τ) Unit := do
  Action.log .info .runControl "Resuming hart"
  request Dmcontrol.resumereq
  expectDmi .dmstatus Dmstatus.resumed Dmstatus.resumed "hart failed to resume"

/-- The value of `dcsr`, read back where that is possible. -/
def currentDcsr : Action DebugError (Session τ) Word := do
  if (← get).isLive then
    let value ← readRegister "DCSR" none
    pure (value.setWidth 32)
  else
    pure (← get).dcsrShadow

def writeDcsr (value : Word) : Action DebugError (Session τ) Unit :=
  writeRegister "DCSR" (value.setWidth 128) none

/-- Run one instruction of a halted hart, with the step bit clear afterwards. -/
def step : Action DebugError (Session τ) Unit := do
  Action.log .info .runControl "Stepping hart"
  let dcsr ← currentDcsr
  if dcsr &&& stepBit = 0 then
    writeDcsr (dcsr ||| stepBit)
  request Dmcontrol.resumereq
  let cleared := dcsr &&& ~~~ stepBit
  writeDcsr cleared
  modify fun s => { s with dcsrShadow := cleared }

/-- Reset the hart, and acknowledge the reset once it has been seen.  The hart then no longer holds the
`dcsr` that was written before. -/
def resetHart : Action DebugError (Session τ) Unit := do
  Action.log .info .runControl "Resetting hart"
  request Dmcontrol.ndmreset
  withdraw
  expectDmi .dmstatus Dmstatus.reset Dmstatus.reset "hart failed to reset"
  request Dmcontrol.ackhavereset
  modify fun s => { s with dcsrShadow := 0 }

/-- Have the hart halt as it comes out of its next reset. -/
def setHaltOnReset : Action DebugError (Session τ) Unit := do
  Action.log .debug .runControl "Setting halt-on-reset"
  request Dmcontrol.setresethaltreq

/-- Let the hart run as it comes out of its next reset. -/
def clearHaltOnReset : Action DebugError (Session τ) Unit := do
  Action.log .debug .runControl "Clearing halt-on-reset"
  request Dmcontrol.clrresethaltreq

def hartStatus : Action DebugError (Session τ) HartStatus := do
  let status ← readDmi .dmstatus
  pure (HartStatus.ofDmstatus status)

end HartDebug.Session
