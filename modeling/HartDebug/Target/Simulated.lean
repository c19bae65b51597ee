import HartDebug.Target.RegisterFile
import HartDebug.Transport

/-!
# A simulated debug module

A debug module with one hart that answers its bus as hardware would.  Abstract commands take effect at
once, but can be made to look busy for a number of reads; registers can be declared unimplemented; and
the hart can be told to ignore requests to halt.

* `SimulatedModule` — the state of the module and its hart;
* `SimulatedModule.execute` — an abstract command;
* `SimulatedModule.writeBus`, `SimulatedModule.readBus` — an access to one of its registers.
-/

namespace HartDebug

/-- A debug module and its hart. -/
structure SimulatedModule where
  connected : Bool := false
  dmactive : Bool := false
  halted : Bool := false
  resumeAcknowledged : Bool := false
  haveReset : Bool := false
  haltOnReset : Bool := false
  /-- The hart does not halt when it is asked to. -/
  ignoresHalt : Bool := false
  cmderr : Word := 0
  /-- How many reads of `abstractcs` after each command see it busy. -/
  busyReads : Nat := 0
  /-- How many of these are left for the last command. -/
  busyLeft : Nat := 0
  /-- Every command stays busy. -/
  stuckBusy : Bool := false
  data : Vector Word 4 := .replicate 4 0
  progbuf : Vector Word 16 := .replicate 16 0
  progbufsize : Word := 16
  registers : RegisterFile := {}
  /-- The registers that raise an exception when they are moved. -/
  unimplemented : List RegisterNumber := []
  dmistat : Word := 0
  idcode : Word := 0x1002ac05
  /-- Every write to a hart register, in order. -/
  registerWrites : List (RegisterNumber × Value) := []
  programsRun : Nat := 0
  tapResets : Nat := 0
  deriving DecidableEq, Repr

namespace SimulatedModule

/-- How many operand registers a move of a given size code uses: one, two or four for the sizes that a session
moves.  For the codes beyond those it is more than there are. -/
def slotsOf (sizeCode : Nat) : Nat :=
  (8 <<< sizeCode) / 32

/-- Move the operand registers into a hart register. -/
def moveIn (m : SimulatedModule) (number : RegisterNumber) (slots : Nat) : SimulatedModule :=
  let value := Value.ofWords (m.data.toList.take slots)
  { m with
    registers := m.registers.set number value
    registerWrites := m.registerWrites ++ [(number, value)] }

/-- Move a hart register into the operand registers; those beyond its size keep what they hold. -/
def moveOut (m : SimulatedModule) (number : RegisterNumber) (slots : Nat) : SimulatedModule :=
  let value := m.registers.get number
  { m with data := m.data.mapFinIdx fun i w _ => if i < slots then value.word i else w }

/-- Run the program buffer, if the command asks for it. -/
def runProgram (m : SimulatedModule) (command : Word) : SimulatedModule :=
  if AccessRegister.postexec.isSet command then { m with programsRun := m.programsRun + 1 } else m

/-- Take a command.  One that comes while another is busy is dropped, with an error; one that comes
while an error is latched is dropped.

A move of more than 128 bits has no meaning here.  It would use operand registers that there are not, and only a
raw write to `command` can ask for one.  Such registers are then taken as zero and otherwise left out, which is a
convention and not an answer of the module: sessions over a module are looked at without raw writes to
`command`. -/
def execute (m : SimulatedModule) (command : Word) : SimulatedModule :=
  if 0 < m.busyLeft ∨ m.stuckBusy = true then { m with cmderr := 1 }
  else if m.cmderr ≠ 0 then m
  else
    let m := { m with busyLeft := m.busyReads }
    if AccessRegister.transfer.isSet command then
      let number := BitVec.ofNat 16 (AccessRegister.regno.get command)
      let slots := slotsOf (AccessRegister.aarsize.get command)
      if number ∈ m.unimplemented then { m with cmderr := 3 }
      else if AccessRegister.write.isSet command then (m.moveIn number slots).runProgram command
      else (m.moveOut number slots).runProgram command
    else m.runProgram command

/-- Take a write to `dmcontrol`.  The requests in it take effect one after another, a resume request
last. -/
def control (m : SimulatedModule) (w : Word) : SimulatedModule :=
  let m := { m with dmactive := Dmcontrol.dmactive.isSet w }
  let m := if Dmcontrol.setresethaltreq.isSet w then { m with haltOnReset := true } else m
  let m := if Dmcontrol.clrresethaltreq.isSet w then { m with haltOnReset := false } else m
  let m :=
    if Dmcontrol.ndmreset.isSet w then
      { m with haveReset := true, halted := m.haltOnReset, resumeAcknowledged := false }
    else m
  let m := if Dmcontrol.ackhavereset.isSet w then { m with haveReset := false } else m
  let m :=
    if Dmcontrol.haltreq.isSet w ∧ m.ignoresHalt = false then
      { m with halted := true, resumeAcknowledged := false }
    else m
  if Dmcontrol.resumereq.isSet w then { m with halted := false, resumeAcknowledged := true } else m

/-- What `dmstatus` reads as: authenticated, of version 0.13, and the state of the hart. -/
def status (m : SimulatedModule) : Word :=
  0x82
    ||| (if m.halted then Dmstatus.halted else Dmstatus.allrunning.mask ||| Dmstatus.anyrunning.mask)
    ||| (if m.resumeAcknowledged then Dmstatus.resumed else 0)
    ||| (if m.haveReset then Dmstatus.reset else 0)

/-- A command is busy. -/
def isBusy (m : SimulatedModule) : Bool :=
  m.stuckBusy || 0 < m.busyLeft

/-- What `abstractcs` reads as. -/
def abstractStatus (m : SimulatedModule) : Word :=
  (m.progbufsize <<< 24) ||| (m.cmderr <<< 8) ||| 4 |||
    (if m.isBusy then Abstractcs.busy.mask else 0)

/-- One read that sees the command busy has been made. -/
def drained (m : SimulatedModule) : SimulatedModule :=
  if m.stuckBusy then m else { m with busyLeft := m.busyLeft - 1 }

/-- The operand register at an address. -/
def dataSlot? (address : BusAddress) : Option (Fin 4) :=
  if h : BusAddress.data0 ≤ address ∧ (address - BusAddress.data0).toNat < 4 then
    some ⟨(address - BusAddress.data0).toNat, h.2⟩
  else none

/-- The word of the program buffer at an address. -/
def progbufSlot? (address : BusAddress) : Option (Fin 16) :=
  if h : BusAddress.progbuf0 ≤ address ∧ (address - BusAddress.progbuf0).toNat < 16 then
    some ⟨(address - BusAddress.progbuf0).toNat, h.2⟩
  else none

/-- Take a write. -/
def writeBus (m : SimulatedModule) (address : BusAddress) (w : Word) : SimulatedModule :=
  if address = .dmcontrol then m.control w
  else if address = .abstractcs then { m with cmderr := m.cmderr &&& ~~~ ((w >>> 8) &&& 7) }
  else if address = .command then m.execute w
  else
    match dataSlot? address with
    | some i => { m with data := m.data.set i w }
    | none =>
      match progbufSlot? address with
      | some i => { m with progbuf := m.progbuf.set i w }
      | none => m

/-- Answer a read. -/
def readBus (m : SimulatedModule) (address : BusAddress) : Word × SimulatedModule :=
  if address = .dmcontrol then (if m.dmactive then 1 else 0, m)
  else if address = .dmstatus then (m.status, m)
  else if address = .abstractcs then (m.abstractStatus, m.drained)
  else
    match dataSlot? address with
    | some i => (m.data[i], m)
    | none =>
      match progbufSlot? address with
      | some i => (m.progbuf[i], m)
      | none => (0, m)

/-- Take a write to the register of the debug transport. -/
def writeTransport (m : SimulatedModule) (w : Word) : SimulatedModule :=
  if Dtmcs.dmireset.isSet w ∨ Dtmcs.dtmhardreset.isSet w then { m with dmistat := 0 } else m

/-- What the register of the debug transport reads as: seven address bits, version 0.13. -/
def transportStatus (m : SimulatedModule) : Word :=
  (m.dmistat <<< 10) ||| (7 <<< 4) ||| 1

/-- Fail unless the module is connected. -/
def requireConnected : Action DebugError SimulatedModule Unit := do
  if (← get).connected = false then
    throw .notConnected

instance : Transport SimulatedModule where
  isLive _ := true
  connect := modify fun m => { m with connected := true }
  disconnect := modify fun m => { m with connected := false }
  write address w := do
    requireConnected
    modify fun m => m.writeBus address w
  read address := do
    requireConnected
    modifyGet fun m => m.readBus address
  writeDtmcs w := modify fun m => m.writeTransport w
  readDtmcs := do pure (← get).transportStatus
  readIdcode := do pure (← get).idcode
  resetTap := modify fun m => { m with tapResets := m.tapResets + 1 }

instance : ReadsBack SimulatedModule where
  live _ := rfl
  expect_eq := rfl
  expectIdcode_eq := rfl

end SimulatedModule

end HartDebug
