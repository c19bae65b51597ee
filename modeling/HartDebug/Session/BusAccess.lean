import HartDebug.Session.Basic

/-!
# Access to the debug bus

Reads, writes and expectations on the bus of a session's debug module, and what is done with single
accesses: clearing errors of the debug transport, switching the debug module on and off, identifying the
test access port, and looking for the first thing that is wrong.
-/

namespace HartDebug.Session

variable {τ : Type} [Transport τ]

def writeDmi (address : BusAddress) (data : Word) : Action DebugError (Session τ) Unit := do
  Action.log .trace .bus s!"DMI write {Hex.padded 2 address.toNat} <- {Hex.padded 8 data.toNat}"
  onTransport (Bus.write address data)

def readDmi (address : BusAddress) : Action DebugError (Session τ) Word := do
  let data ← onTransport (Bus.read address)
  Action.log .trace .bus s!"DMI read {Hex.padded 2 address.toNat} -> {Hex.padded 8 data.toNat}"
  pure data

/-- Require the bits under a mask of a register to be as expected; `failure` says what it means if they
are not.  An expectation that is recorded for later is met for now. -/
def expectDmi (address : BusAddress) (expected mask : Word) (failure : String) :
    Action DebugError (Session τ) Unit := do
  match ← onTransport (Transport.expect address expected mask) with
  | .passed => pure ()
  | .deferred => pure ()
  | .failed actual => failLogged .bus (.protocol (.mismatch failure address actual expected mask))

/-- Require that no error of the debug bus is latched, after `cleared` was pulsed. -/
def expectNoBusError (cleared : String) : Action DebugError (Session τ) Unit := do
  if (← get).isLive then
    let status ← onTransport Bus.readDtmcs
    let dmistat := Dtmcs.dmistat.get status
    if dmistat ≠ 0 then
      failLogged .bus (.protocol (.busError cleared dmistat))

/-- Clear a latched error of the debug bus. -/
def resetStickyError : Action DebugError (Session τ) Unit := do
  onTransport (Bus.writeDtmcs (Dtmcs.dmireset.setFlag true 0))
  expectNoBusError Dtmcs.dmireset.name

/-- Reset the debug transport, with any access in flight given up. -/
def hardResetDtm : Action DebugError (Session τ) Unit := do
  onTransport (Bus.writeDtmcs (Dtmcs.dtmhardreset.setFlag true 0))
  expectNoBusError Dtmcs.dtmhardreset.name

/-- Switch the debug module on. -/
def activateDm : Action DebugError (Session τ) Unit := do
  Action.log .debug .bus "Activating the debug module"
  writeDmi .dmcontrol Dmcontrol.active
  expectDmi .dmcontrol 1 1 "debug module failed to activate"

/-- Switch the debug module off. -/
def deactivateDm : Action DebugError (Session τ) Unit := do
  Action.log .debug .bus "Deactivating the debug module"
  writeDmi .dmcontrol 0
  expectDmi .dmcontrol 0 1 "debug module failed to deactivate"

/-- Put the debug module into its reset state by switching it off and on. -/
def resetDm : Action DebugError (Session τ) Unit := do
  deactivateDm
  activateDm

def resetTap : Action DebugError (Session τ) Unit :=
  onTransport Bus.resetTap

def readIdcode : Action DebugError (Session τ) Word := do
  let idcode ← onTransport Bus.readIdcode
  Action.log .info .bus s!"IDCODE: {Hex.padded 8 idcode.toNat}"
  pure idcode

/-- Require the test access port to identify itself as expected. -/
def expectIdcode (expected : Word) : Action DebugError (Session τ) Unit := do
  match ← onTransport (Transport.expectIdcode expected) with
  | .passed => pure ()
  | .deferred => pure ()
  | .failed actual => failLogged .bus (.protocol (.idcode actual expected))

/-- Look through the debug transport, the debug module and the abstract command for the first thing that
is wrong.  The error of an abstract command counts only once the command has finished. -/
def diagnose : Action DebugError (Session τ) (Option Fault) := do
  let status ← onTransport Bus.readDtmcs
  let errinfo := Dtmcs.errinfo.get status
  let dmistat := Dtmcs.dmistat.get status
  if 1 ≤ errinfo ∧ errinfo ≤ 3 then
    pure (some (.transport errinfo))
  else if dmistat ≠ 0 then
    pure (some (.busStatus dmistat))
  else
    let control ← readDmi .dmcontrol
    if Dmcontrol.dmactive.isSet control then
      let abstractcs ← readDmi .abstractcs
      let error := CommandError.ofAbstractcs abstractcs
      if Abstractcs.busy.isSet abstractcs = false ∧ error ≠ .none then
        pure (some (.command error))
      else
        pure none
    else
      pure (some .inactive)

end HartDebug.Session
