/-!
# Hexadecimal text

Numbers written in base sixteen: with the `0x` marker and lower-case digits wherever a person or the
adapter reads them, and as bare pairs of upper-case digits inside scan patterns.
-/

namespace HartDebug.Hex

/-- The digit for a number below sixteen, in lower case. -/
def digit (n : Nat) : Char :=
  if n < 10 then Char.ofNat (0x30 + n) else Char.ofNat (0x61 + (n - 10))

/-- The digits of a number, most significant first, with no leading zero; zero is the single digit. -/
def digits (n : Nat) : List Char :=
  if n < 16 then [digit n] else digits (n / 16) ++ [digit (n % 16)]
termination_by n

/-- The digits with leading zeros up to a count of at least `count`. -/
def paddedDigits (count n : Nat) : List Char :=
  List.replicate (count - (digits n).length) '0' ++ digits n

/-- A number as it is written in commands and messages, with no leading zero. -/
def text (n : Nat) : String :=
  String.ofList ('0' :: 'x' :: digits n)

/-- A number written with at least `count` digits after its marker. -/
def padded (count n : Nat) : String :=
  String.ofList ('0' :: 'x' :: paddedDigits count n)

/-- An octet as two upper-case digits. -/
def pair (b : UInt8) : String :=
  String.ofList ((paddedDigits 2 b.toNat).map Char.toUpper)

end HartDebug.Hex
