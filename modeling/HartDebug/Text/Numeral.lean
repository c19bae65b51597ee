/-!
# Numerals

How whole numbers are read from text, and the four ways in which a numeral is refused.  Digits are
taken from the left: the first character that is no digit refuses the numeral, unless the digits
before it have already passed the limit, so the order of the two faults in the text decides which one
is reported.

* `readDigits` — digits in a base, below a limit;
* `readNatural` — the same after at most one plus sign;
* `readInteger` — a signed numeral between two bounds.
-/

namespace HartDebug.Numeral

/-- Why a numeral was refused. -/
inductive Fault where
  /-- There is nothing to read. -/
  | empty
  /-- A character is no digit of the base, or a sign stands alone. -/
  | invalidDigit
  /-- The digits read so far pass the upper limit. -/
  | tooLarge
  /-- The digits read so far pass the lower limit. -/
  | tooSmall
  deriving DecidableEq, Repr

/-- The wording of a refusal. -/
def Fault.message : Fault → String
  | .empty => "cannot parse integer from empty string"
  | .invalidDigit => "invalid digit found in string"
  | .tooLarge => "number too large to fit in target type"
  | .tooSmall => "number too small to fit in target type"

/-- The number that an ASCII digit or letter stands for, in bases up to 36. -/
def digitValue (c : Char) : Option Nat :=
  let n := c.toNat
  if 0x30 ≤ n ∧ n ≤ 0x39 then some (n - 0x30)
  else if 0x61 ≤ n ∧ n ≤ 0x7a then some (n - 0x61 + 10)
  else if 0x41 ≤ n ∧ n ≤ 0x5a then some (n - 0x41 + 10)
  else none

/-- The number that a character stands for as a digit of `base`. -/
def digitIn (base : Nat) (c : Char) : Option Nat :=
  (digitValue c).filter (· < base)

/-- Read the digits that remain after those making up `sofar`; the number stays below `limit`. -/
def readDigits (base limit : Nat) : Nat → List Char → Except Fault Nat
  | sofar, [] => .ok sofar
  | sofar, c :: rest =>
    match digitIn base c with
    | none => .error .invalidDigit
    | some d =>
      if sofar * base + d < limit then readDigits base limit (sofar * base + d) rest
      else .error .tooLarge

/-- Read a number below `limit`, written in `base` after at most one plus sign. -/
def readNatural (base limit : Nat) : List Char → Except Fault Nat
  | [] => .error .empty
  | ['+'] => .error .invalidDigit
  | '+' :: rest => readDigits base limit 0 rest
  | text => readDigits base limit 0 text

/-- Read a decimal number from `-limit` up to, and not including, `limit`, after at most one sign. -/
def readInteger (limit : Nat) : List Char → Except Fault Int
  | ['-'] => .error .invalidDigit
  | '-' :: rest =>
    match readDigits 10 (limit + 1) 0 rest with
    | .ok n => .ok (-(n : Int))
    | .error .tooLarge => .error .tooSmall
    | .error e => .error e
  | text => (readNatural 10 limit text).map Int.ofNat

end HartDebug.Numeral
