import HartDebug.Error
import HartDebug.Text.Numeral

/-!
# Numbers on the command line

Register values and instruction words as a user writes them: in hexadecimal after a mark, or in decimal,
with underscores wherever they help reading.

* `Number.readValue` — a number of up to 128 bits;
* `Number.readWord` — one of up to 32.
-/

namespace HartDebug.Number

/-- Why a text is not taken as a number. -/
inductive Fault where
  | notNumber (text : String) (fault : Numeral.Fault)
  /-- The number is too large for an instruction word. -/
  | notWord (value : Nat)
  deriving DecidableEq, Repr

def Fault.message : Fault → String
  | .notNumber text fault => s!"'{text}' is not a valid value: {fault.message}"
  | .notWord value => s!"{Hex.text value} does not fit in a 32-bit instruction word"

/-- A text without its underscores. -/
def dropUnderscores (text : List Char) : List Char :=
  text.filter (· != '_')

/-- The number that a text stands for, below a limit. -/
def readBelow (limit : Nat) : List Char → Except Numeral.Fault Nat
  | '0' :: 'x' :: digits => Numeral.readNatural 16 limit (dropUnderscores digits)
  | '0' :: 'X' :: digits => Numeral.readNatural 16 limit (dropUnderscores digits)
  | text => Numeral.readNatural 10 limit (dropUnderscores text)

/-- The value that a text stands for, as a number. -/
def readNat (text : String) : Except Fault Nat :=
  match readBelow (1 <<< 128) text.toList with
  | .ok n => .ok n
  | .error e => .error (.notNumber text e)

/-- The value that a text stands for. -/
def readValue (text : String) : Except Fault Value :=
  (readNat text).map (BitVec.ofNat 128)

/-- The instruction word that a text stands for. -/
def readWord (text : String) : Except Fault Word := do
  let n ← readNat text
  if n < 1 <<< 32 then pure (BitVec.ofNat 32 n) else throw (.notWord n)

end HartDebug.Number
