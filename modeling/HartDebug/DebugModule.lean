import HartDebug.Bits

/-!
# Registers of the debug module and of the debug transport

Addresses on the debug bus, JTAG instructions with the lengths of the registers they select, and the
layouts of the registers whose bits are looked at, after version 0.13.2 of the external debug support
specification.
-/

namespace HartDebug

namespace BusAddress

/-- `data0`, the first of the registers that carry the operand of an abstract command. -/
def data0 : BusAddress := 0x04
def dmcontrol : BusAddress := 0x10
def dmstatus : BusAddress := 0x11
def abstractcs : BusAddress := 0x16
def command : BusAddress := 0x17
/-- `progbuf0`; the program buffer extends upwards from here. -/
def progbuf0 : BusAddress := 0x20

/-- The `slot`-th operand register. -/
def data (slot : Nat) : BusAddress :=
  data0 + BitVec.ofNat 8 slot

/-- The `i`-th word of the program buffer. -/
def progbuf (i : Nat) : BusAddress :=
  progbuf0 + BitVec.ofNat 8 i

/-- The operand registers have addresses of seven bits. -/
theorem toNat_data {slot : Nat} (h : slot < 4) : (data slot).toNat < 0x80 := by
  revert slot
  decide

/-- The program buffer has addresses of seven bits. -/
theorem toNat_progbuf {i : Nat} (h : i < 16) : (progbuf i).toNat < 0x80 := by
  revert i
  decide

/-- The operand registers lie apart from the registers of commands. -/
theorem data_ne {slot : Nat} (h : slot < 4) : data slot ≠ command ∧ data slot ≠ abstractcs := by
  revert slot
  decide

/-- The program buffer lies apart from the registers of commands. -/
theorem progbuf_ne {i : Nat} (h : i < 16) : progbuf i ≠ command ∧ progbuf i ≠ abstractcs := by
  revert i
  decide

end BusAddress

/-- The instructions of the test access port that lead to debug registers. -/
inductive Instruction where
  | idcode
  | dtmcs
  | dmi
  deriving DecidableEq, Repr

namespace Instruction

def opcode : Instruction → BitVec 8
  | .idcode => 0x01
  | .dtmcs => 0x10
  | .dmi => 0x11

/-- The length of the instruction register. -/
def registerLength : Nat := 5

/-- The length of the data register that an instruction selects; that of `dmi` holds seven address
bits, a word and a two-bit operation. -/
def dataLength : Instruction → Nat
  | .idcode => 32
  | .dtmcs => 32
  | .dmi => 41

end Instruction

namespace Dtmcs

def errinfo : BitField := { name := "errinfo", low := 18, width := 3 }
def dtmhardreset : BitField := { name := "dtmhardreset", low := 17, width := 1 }
def dmireset : BitField := { name := "dmireset", low := 16, width := 1 }
def idle : BitField := { name := "idle", low := 12, width := 3 }
def dmistat : BitField := { name := "dmistat", low := 10, width := 2 }
def abits : BitField := { name := "abits", low := 4, width := 6 }
def version : BitField := { name := "version", low := 0, width := 4 }

/-- Control and status of the debug transport. -/
def layout : Layout where
  name := "Dtmcs"
  fields := [errinfo, dtmhardreset, dmireset, idle, dmistat, abits, version]

end Dtmcs

namespace Dmcontrol

def haltreq : BitField := { name := "haltreq", low := 31, width := 1 }
def resumereq : BitField := { name := "resumereq", low := 30, width := 1 }
def hartreset : BitField := { name := "hartreset", low := 29, width := 1 }
def ackhavereset : BitField := { name := "ackhavereset", low := 28, width := 1 }
def hasel : BitField := { name := "hasel", low := 26, width := 1 }
def hartsello : BitField := { name := "hartsello", low := 16, width := 10 }
def hartselhi : BitField := { name := "hartselhi", low := 6, width := 10 }
def setresethaltreq : BitField := { name := "setresethaltreq", low := 3, width := 1 }
def clrresethaltreq : BitField := { name := "clrresethaltreq", low := 2, width := 1 }
def ndmreset : BitField := { name := "ndmreset", low := 1, width := 1 }
def dmactive : BitField := { name := "dmactive", low := 0, width := 1 }

/-- Control of the debug module and of the selected hart. -/
def layout : Layout where
  name := "Dmcontrol"
  fields := [haltreq, resumereq, hartreset, ackhavereset, hasel, hartsello, hartselhi, setresethaltreq,
    clrresethaltreq, ndmreset, dmactive]

/-- Keep the debug module active and request nothing else. -/
def active : Word := dmactive.setFlag true 0

/-- Keep the debug module active and make one request. -/
def request (f : BitField) : Word := f.setFlag true active

end Dmcontrol

namespace Dmstatus

def impebreak : BitField := { name := "impebreak", low := 22, width := 1 }
def allhavereset : BitField := { name := "allhavereset", low := 19, width := 1 }
def anyhavereset : BitField := { name := "anyhavereset", low := 18, width := 1 }
def allresumeack : BitField := { name := "allresumeack", low := 17, width := 1 }
def anyresumeack : BitField := { name := "anyresumeack", low := 16, width := 1 }
def allnonexistent : BitField := { name := "allnonexistent", low := 15, width := 1 }
def anynonexistent : BitField := { name := "anynonexistent", low := 14, width := 1 }
def allunavail : BitField := { name := "allunavail", low := 13, width := 1 }
def anyunavail : BitField := { name := "anyunavail", low := 12, width := 1 }
def allrunning : BitField := { name := "allrunning", low := 11, width := 1 }
def anyrunning : BitField := { name := "anyrunning", low := 10, width := 1 }
def allhalted : BitField := { name := "allhalted", low := 9, width := 1 }
def anyhalted : BitField := { name := "anyhalted", low := 8, width := 1 }
def authenticated : BitField := { name := "authenticated", low := 7, width := 1 }
def authbusy : BitField := { name := "authbusy", low := 6, width := 1 }
def hasresethaltreq : BitField := { name := "hasresethaltreq", low := 5, width := 1 }
def confstrptrvalid : BitField := { name := "confstrptrvalid", low := 4, width := 1 }
def version : BitField := { name := "version", low := 0, width := 4 }

/-- Status of the debug module and of the selected hart; it is only read. -/
def layout : Layout where
  name := "Dmstatus"
  fields := [impebreak, allhavereset, anyhavereset, allresumeack, anyresumeack, allnonexistent,
    anynonexistent, allunavail, anyunavail, allrunning, anyrunning, allhalted, anyhalted,
    authenticated, authbusy, hasresethaltreq, confstrptrvalid, version]

/-- Both bits that say that the selected hart is halted. -/
def halted : Word := allhalted.mask ||| anyhalted.mask

/-- Both bits that say that the selected hart has acknowledged a resume request. -/
def resumed : Word := allresumeack.mask ||| anyresumeack.mask

/-- Both bits that say that the selected hart has been reset and nobody has acknowledged it. -/
def reset : Word := allhavereset.mask ||| anyhavereset.mask

end Dmstatus

namespace Abstractcs

def progbufsize : BitField := { name := "progbufsize", low := 24, width := 5 }
def busy : BitField := { name := "busy", low := 12, width := 1 }
def cmderr : BitField := { name := "cmderr", low := 8, width := 3 }
def datacount : BitField := { name := "datacount", low := 0, width := 4 }

/-- Control and status of abstract commands. -/
def layout : Layout where
  name := "Abstractcs"
  fields := [progbufsize, busy, cmderr, datacount]

/-- Everything that is clear once a command has completed without error. -/
def unfinished : Word := busy.mask ||| cmderr.mask

end Abstractcs

namespace AccessRegister

def cmdtype : BitField := { name := "cmdtype", low := 24, width := 8 }
def aarsize : BitField := { name := "aarsize", low := 20, width := 3 }
def aarpostincrement : BitField := { name := "aarpostincrement", low := 19, width := 1 }
def postexec : BitField := { name := "postexec", low := 18, width := 1 }
def transfer : BitField := { name := "transfer", low := 17, width := 1 }
def write : BitField := { name := "write", low := 16, width := 1 }
def regno : BitField := { name := "regno", low := 0, width := 16 }

/-- The command word; with command type zero it accesses a register. -/
def layout : Layout where
  name := "AccessRegisterCommand"
  fields := [cmdtype, aarsize, aarpostincrement, postexec, transfer, write, regno]

end AccessRegister

end HartDebug
