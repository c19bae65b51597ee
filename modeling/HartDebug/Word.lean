/-!
# Words on the debug bus

The sizes in which a debug module is spoken to: addresses on its bus, the 32-bit words its registers
hold, the numbers by which hart registers are named to it, and hart register values of up to 128 bits,
which cross the bus as several words.

* `Value.word` / `Value.ofWords` — a value seen as words, least significant first;
* `Value.Fits` — the value is representable in a number of bits.
-/

namespace HartDebug

/-- An octet of a byte stream or of a scan pattern. -/
abbrev Byte := UInt8

/-- What one register of the debug module holds. -/
abbrev Word := BitVec 32

/-- Where a register of the debug module sits on its bus.  The bus has seven address bits, but every
octet may be asked for. -/
abbrev BusAddress := BitVec 8

/-- The number by which an abstract command names a hart register. -/
abbrev RegisterNumber := BitVec 16

/-- What a hart register holds, at the widest. -/
abbrev Value := BitVec 128

namespace Value

/-- The `i`-th 32-bit word of a value, counted from the least significant one. -/
def word (value : Value) (i : Nat) : Word :=
  value.extractLsb' (32 * i) 32

/-- The value whose words are given, least significant first. -/
def ofWords : List Word → Value
  | [] => 0
  | w :: ws => w.setWidth 128 ||| (ofWords ws <<< 32)

/-- The value can be represented in `bits` bits. -/
def Fits (bits : Nat) (value : Value) : Prop :=
  value >>> bits = 0

instance (bits : Nat) (value : Value) : Decidable (value.Fits bits) :=
  inferInstanceAs (Decidable (value >>> bits = 0))

/-- The value with its lowest `bits` bits set and no other. -/
def lowMask (bits : Nat) : Value :=
  BitVec.allOnes 128 >>> (128 - bits)

end Value

end HartDebug
