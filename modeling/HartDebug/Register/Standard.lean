import HartDebug.Register.Catalog

/-!
# The standard registers

The architectural registers of a hart, the probes into its memory stage, and the names they go by: the
index form in lower case and the names of the calling convention beside the canonical upper-case ones.

* `Catalog.standard` — all of them;
* `RegisterGroup` — the registers that can be listed as a whole.
-/

namespace HartDebug

/-- A group of registers that can be listed as a whole. -/
inductive RegisterGroup where
  | integer
  | float
  deriving DecidableEq, Repr

namespace RegisterGroup

def text : RegisterGroup → String
  | .integer => "integer"
  | .float => "floating point"

/-- The letter that begins the canonical names of the group. -/
def letter : RegisterGroup → String
  | .integer => "X"
  | .float => "F"

/-- The letter that begins the index form of the names. -/
def indexLetter : RegisterGroup → String
  | .integer => "x"
  | .float => "f"

/-- The number of the group's first register. -/
def firstNumber : RegisterGroup → Nat
  | .integer => 0x1000
  | .float => 0x1020

/-- The canonical names of the group, in the order of register numbers. -/
def members (g : RegisterGroup) : List String :=
  (List.range 32).map fun i => g.letter ++ toString i

/-- The registers of the group. -/
def registers (g : RegisterGroup) : List (String × RegisterNumber) :=
  (List.range 32).map fun i => (g.letter ++ toString i, BitVec.ofNat 16 (g.firstNumber + i))

/-- The index form of each name of the group, after the canonical one. -/
def indexNames (g : RegisterGroup) : List (String × String) :=
  (List.range 32).map fun i => (g.letter ++ toString i, g.indexLetter ++ toString i)

end RegisterGroup

namespace Catalog.Standard

/-- Control and status registers. -/
def controlRegisters : List (String × RegisterNumber) :=
  [("FFLAGS", 0x0001), ("FRM", 0x0002), ("FCSR", 0x0003), ("SSTATUS", 0x0100), ("SIE", 0x0104),
   ("STVEC", 0x0105), ("SCOUNTEREN", 0x0106), ("SENVCFG", 0x010a), ("SSCRATCH", 0x0140),
   ("SEPC", 0x0141), ("SCAUSE", 0x0142), ("STVAL", 0x0143), ("SIP", 0x0144), ("STIMECMP", 0x014d),
   ("STIMECMPH", 0x015d), ("SATP", 0x0180), ("MSTATUS", 0x0300), ("MISA", 0x0301),
   ("MEDELEG", 0x0302), ("MIDELEG", 0x0303), ("MIE", 0x0304), ("MTVEC", 0x0305),
   ("MCOUNTEREN", 0x0306), ("MENVCFG", 0x030a), ("MSTATUSH", 0x0310), ("MENVCFGH", 0x031a),
   ("MCOUNTINHIBIT", 0x0320), ("MHPMEVENTBASE", 0x0320), ("MSCRATCH", 0x0340), ("MEPC", 0x0341),
   ("MCAUSE", 0x0342), ("MTVAL", 0x0343), ("MIP", 0x0344), ("PMPCFG0", 0x03a0),
   ("PMPCFG1", 0x03a1), ("PMPCFG2", 0x03a2), ("PMPCFG3", 0x03a3), ("PMPCFG4", 0x03a4),
   ("PMPCFG5", 0x03a5), ("PMPCFG6", 0x03a6), ("PMPCFG7", 0x03a7), ("PMPCFG8", 0x03a8),
   ("PMPCFG9", 0x03a9), ("PMPCFGA", 0x03aa), ("PMPCFGB", 0x03ab), ("PMPCFGC", 0x03ac),
   ("PMPCFGD", 0x03ad), ("PMPCFGE", 0x03ae), ("PMPCFGF", 0x03af), ("PMPADDR0", 0x03b0),
   ("PMPADDR1", 0x03b1), ("PMPADDR2", 0x03b2), ("PMPADDR3", 0x03b3), ("PMPADDR4", 0x03b4),
   ("PMPADDR5", 0x03b5), ("PMPADDR6", 0x03b6), ("PMPADDR7", 0x03b7), ("PMPADDR8", 0x03b8),
   ("PMPADDR9", 0x03b9), ("PMPADDRA", 0x03ba), ("PMPADDRB", 0x03bb), ("PMPADDRC", 0x03bc),
   ("PMPADDRD", 0x03bd), ("PMPADDRE", 0x03be), ("PMPADDRF", 0x03bf), ("PMPADDR10", 0x03c0),
   ("PMPADDR11", 0x03c1), ("PMPADDR12", 0x03c2), ("PMPADDR13", 0x03c3), ("PMPADDR14", 0x03c4),
   ("PMPADDR15", 0x03c5), ("PMPADDR16", 0x03c6), ("PMPADDR17", 0x03c7), ("PMPADDR18", 0x03c8),
   ("PMPADDR19", 0x03c9), ("PMPADDR1A", 0x03ca), ("PMPADDR1B", 0x03cb), ("PMPADDR1C", 0x03cc),
   ("PMPADDR1D", 0x03cd), ("PMPADDR1E", 0x03ce), ("PMPADDR1F", 0x03cf), ("PMPADDR20", 0x03d0),
   ("PMPADDR21", 0x03d1), ("PMPADDR22", 0x03d2), ("PMPADDR23", 0x03d3), ("PMPADDR24", 0x03d4),
   ("PMPADDR25", 0x03d5), ("PMPADDR26", 0x03d6), ("PMPADDR27", 0x03d7), ("PMPADDR28", 0x03d8),
   ("PMPADDR29", 0x03d9), ("PMPADDR2A", 0x03da), ("PMPADDR2B", 0x03db), ("PMPADDR2C", 0x03dc),
   ("PMPADDR2D", 0x03dd), ("PMPADDR2E", 0x03de), ("PMPADDR2F", 0x03df), ("PMPADDR30", 0x03e0),
   ("PMPADDR31", 0x03e1), ("PMPADDR32", 0x03e2), ("PMPADDR33", 0x03e3), ("PMPADDR34", 0x03e4),
   ("PMPADDR35", 0x03e5), ("PMPADDR36", 0x03e6), ("PMPADDR37", 0x03e7), ("PMPADDR38", 0x03e8),
   ("PMPADDR39", 0x03e9), ("PMPADDR3A", 0x03ea), ("PMPADDR3B", 0x03eb), ("PMPADDR3C", 0x03ec),
   ("PMPADDR3D", 0x03ed), ("PMPADDR3E", 0x03ee), ("PMPADDR3F", 0x03ef), ("TSELECT", 0x07a0),
   ("TDATA1", 0x07a1), ("TDATA2", 0x07a2), ("TDATA3", 0x07a3), ("DCSR", 0x07b0), ("DPC", 0x07b1),
   ("MHPMCOUNTERBASE", 0x0b00), ("MHPMCOUNTERHBASE", 0x0b80), ("HPMCOUNTERBASE", 0x0c00),
   ("TIME", 0x0c01), ("HPMCOUNTERHBASE", 0x0c80), ("TIMEH", 0x0c81), ("MVENDORID", 0x0f11),
   ("MARCHID", 0x0f12), ("MIMPID", 0x0f13), ("MHARTID", 0x0f14), ("MCONFIGPTR", 0x0f15)]

/-- Signals of the memory stage that can be read like registers. -/
def probes : List (String × RegisterNumber) :=
  [("TRAPM", 0xc000), ("PCM", 0xc001), ("INSTRM", 0xc002), ("MEMRWM", 0xc003),
   ("INSTRVALIDM", 0xc004), ("WRITEDATAM", 0xc005), ("IEUADRM", 0xc006), ("READDATAM", 0xc007)]

/-- The names of the calling convention, each after the canonical name it stands for. -/
def callingNames : List (String × String) :=
  [("X0", "zero"), ("X1", "ra"), ("X2", "sp"), ("X3", "gp"), ("X4", "tp"), ("X5", "t0"),
   ("X6", "t1"), ("X7", "t2"), ("X8", "s0"), ("X8", "fp"), ("X9", "s1"), ("X10", "a0"),
   ("X11", "a1"), ("X12", "a2"), ("X13", "a3"), ("X14", "a4"), ("X15", "a5"), ("X16", "a6"),
   ("X17", "a7"), ("X18", "s2"), ("X19", "s3"), ("X20", "s4"), ("X21", "s5"), ("X22", "s6"),
   ("X23", "s7"), ("X24", "s8"), ("X25", "s9"), ("X26", "s10"), ("X27", "s11"), ("X28", "t3"),
   ("X29", "t4"), ("X30", "t5"), ("X31", "t6"), ("F0", "ft0"), ("F1", "ft1"), ("F2", "ft2"),
   ("F3", "ft3"), ("F4", "ft4"), ("F5", "ft5"), ("F6", "ft6"), ("F7", "ft7"), ("F8", "fs0"),
   ("F9", "fs1"), ("F10", "fa0"), ("F11", "fa1"), ("F12", "fa2"), ("F13", "fa3"), ("F14", "fa4"),
   ("F15", "fa5"), ("F16", "fa6"), ("F17", "fa7"), ("F18", "fs2"), ("F19", "fs3"), ("F20", "fs4"),
   ("F21", "fs5"), ("F22", "fs6"), ("F23", "fs7"), ("F24", "fs8"), ("F25", "fs9"),
   ("F26", "fs10"), ("F27", "fs11"), ("F28", "ft8"), ("F29", "ft9"), ("F30", "ft10"),
   ("F31", "ft11")]

/-- The registers whose width is not that of the hart. -/
def widths : List (String × Nat) :=
  [("TRAPM", 1), ("INSTRM", 32), ("MEMRWM", 2), ("INSTRVALIDM", 1), ("READDATAM", 64)]

def registers : List (String × RegisterNumber) :=
  controlRegisters ++ probes ++ RegisterGroup.integer.registers ++ RegisterGroup.float.registers

def aliases : List (String × String) :=
  callingNames ++ RegisterGroup.integer.indexNames ++ RegisterGroup.float.indexNames

end Catalog.Standard

/-- The catalog of all standard registers. -/
def Catalog.standard : Catalog :=
  ofLists Standard.registers Standard.aliases Standard.widths

theorem Catalog.standard_eq :
    standard = ofLists Standard.registers Standard.aliases Standard.widths := rfl

-- What a name of it stands for follows from the lists; nothing is gained by filling the maps in a proof.
attribute [irreducible] Catalog.standard

end HartDebug
