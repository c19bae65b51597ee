import HartDebug.Word

/-!
# Transfer widths

How many bits one abstract register access moves: 32, 64 or 128.
-/

namespace HartDebug

/-- The number of bits moved by one abstract register access. -/
inductive TransferWidth where
  | w32
  | w64
  | w128
  deriving DecidableEq, Repr

namespace TransferWidth

def bits : TransferWidth → Nat
  | .w32 => 32
  | .w64 => 64
  | .w128 => 128

/-- The width of a number of bits, if it is one. -/
def ofBits? : Nat → Option TransferWidth
  | 32 => some .w32
  | 64 => some .w64
  | 128 => some .w128
  | _ => none

/-- How many operand registers a value of this width spans. -/
def slots : TransferWidth → Nat
  | .w32 => 1
  | .w64 => 2
  | .w128 => 4

/-- The encoding of the width in a command word: the logarithm of its number of octets. -/
def sizeCode : TransferWidth → Nat
  | .w32 => 2
  | .w64 => 3
  | .w128 => 4

theorem bits_eq_slots (w : TransferWidth) : w.bits = 32 * w.slots := by
  cases w <;> rfl

theorem bits_eq_shiftLeft (w : TransferWidth) : w.bits = 8 <<< w.sizeCode := by
  cases w <;> rfl

theorem bits_le (w : TransferWidth) : w.bits ≤ 128 := by
  cases w <;> decide

theorem slots_le (w : TransferWidth) : w.slots ≤ 4 := by
  cases w <;> decide

theorem ofBits?_bits (w : TransferWidth) : ofBits? w.bits = some w := by
  cases w <;> rfl

end TransferWidth

end HartDebug
