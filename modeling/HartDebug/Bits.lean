import HartDebug.Word

/-!
# Bit fields and register layouts

A field is a contiguous range of bits of a 32-bit register.  Fields are read as numbers, one-bit fields
also as flags; writing a field leaves every other bit alone.  A layout names the fields of a register.

* `BitField.get`, `BitField.set` — a field as a number;
* `BitField.isSet`, `BitField.setFlag` — a field as a flag;
* `BitField.assign` — write a number by the field's own kind: a flag takes whether it is zero, any
  other field its low bits;
* `Layout.describe` — all fields of a register's value as text.
-/

namespace HartDebug

/-- A named range of bits of a 32-bit register. -/
structure BitField where
  name : String
  low : Nat
  width : Nat
  width_pos : 0 < width := by decide
  fits : low + width ≤ 32 := by decide
  deriving DecidableEq, Repr

namespace BitField

/-- The bits that the field occupies. -/
def mask (f : BitField) : Word :=
  ((BitVec.allOnes f.width).setWidth 32) <<< f.low

/-- The number a field holds. -/
def get (f : BitField) (w : Word) : Nat :=
  (w.extractLsb' f.low f.width).toNat

/-- The word with the field holding the low bits of a number. -/
def set (f : BitField) (n : Nat) (w : Word) : Word :=
  (w &&& ~~~ f.mask) ||| (((BitVec.ofNat f.width n).setWidth 32) <<< f.low)

/-- Some bit of the field is set. -/
def isSet (f : BitField) (w : Word) : Bool :=
  f.get w != 0

/-- The word with the field holding one or zero. -/
def setFlag (f : BitField) (on : Bool) (w : Word) : Word :=
  f.set (if on then 1 else 0) w

/-- A field of a single bit. -/
def IsFlag (f : BitField) : Prop :=
  f.width = 1

instance (f : BitField) : Decidable f.IsFlag :=
  inferInstanceAs (Decidable (f.width = 1))

/-- The word with a number written to the field: a flag takes whether it is other than zero. -/
def assign (f : BitField) (n : Nat) (w : Word) : Word :=
  if f.IsFlag then f.setFlag (n != 0) w else f.set n w

/-- The text of what the field holds: a flag as a truth value, any other field in decimal. -/
def valueText (f : BitField) (w : Word) : String :=
  if f.IsFlag then (if f.isSet w then "true" else "false") else toString (f.get w)

end BitField

/-- The fields of a register, from the most significant one down. -/
structure Layout where
  name : String
  fields : List BitField
  deriving DecidableEq, Repr

namespace Layout

def field? (l : Layout) (name : String) : Option BitField :=
  l.fields.find? (·.name == name)

/-- Assign numbers to fields, first to last. -/
def assignAll (w : Word) (assignments : List (BitField × Nat)) : Word :=
  assignments.foldl (fun w (f, n) => f.assign n w) w

/-- A register's value, whole and by fields. -/
def describe (l : Layout) (w : Word) : String :=
  let parts := (".0: " ++ toString w.toNat) :: l.fields.map fun f => f.name ++ ": " ++ f.valueText w
  l.name ++ " \x7b " ++ ", ".intercalate parts ++ " \x7d"

end Layout

end HartDebug
