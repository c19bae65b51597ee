import HartDebug.Error
import HartDebug.Text.Blank
import HartDebug.Text.Digit
import HartDebug.Text.Lines
import HartDebug.Text.Numeral

/-!
# What the adapter tells about the target

Two tables that the adapter prints for people: its scan chain, with the name and the identification of
each port, and its description of a hart, with the width of the registers.

* `ScanChain.rows` — the rows of a listing, below its two header lines;
* `ScanChain.tapAt?`, `ScanChain.tapIn?` — the port that a row describes;
* `ScanChain.tapOf` — the first port of a listing;
* `ScanChain.xlenOf` — the register width of a hart's description.
-/

namespace HartDebug

/-- A port of the scan chain. -/
structure Tap where
  name : String
  idcode : Option Word
  deriving DecidableEq, Repr

namespace ScanChain

open Text

/-- The first field of a text that begins with blanks, and what comes after the field. -/
def field? (text : List Char) : Option (List Char × List Char) :=
  match text with
  | [] => none
  | c :: rest =>
    if isBlank c then
      let body := rest.dropWhile isBlank
      match body.takeWhile (!isBlank ·) with
      | [] => none
      | word => some (word, body.dropWhile (!isBlank ·))
    else none

/-- The hexadecimal digits at the beginning of a text, after the marker and the blanks before it. -/
def marked? (text : List Char) : Option (List Char) :=
  match text with
  | [] => none
  | c :: rest =>
    if isBlank c then
      match rest.dropWhile isBlank with
      | '0' :: 'x' :: body =>
        match body.takeWhile fun c => (Numeral.digitIn 16 c).isSome with
        | [] => none
        | digits => some digits
      | _ => none
    else none

/-- The identification in the columns after a port's name: a flag, and a marked number. -/
def idcodeAfter? (text : List Char) : Option Word := do
  let (_, rest) ← field? text
  let digits ← marked? rest
  let n ← (Numeral.readNatural 16 (1 <<< 32) digits).toOption
  pure (BitVec.ofNat 32 n)

/-- The port whose row has its index at the beginning of the text: a digit, the name as the next field,
and something blank after the name. -/
def tapAt? : List Char → Option Tap
  | [] => none
  | d :: rest =>
    if isDecimalDigit d then
      match field? rest with
      | none => none
      | some (_, []) => none
      | some (name, columns) => some ⟨String.ofList name, idcodeAfter? columns⟩
    else none

/-- The port described by a row, from the first place at which a description begins. -/
def tapIn? : List Char → Option Tap
  | [] => none
  | c :: rest =>
    match tapAt? (c :: rest) with
    | some tap => some tap
    | none => tapIn? rest

/-- The rows of a listing: what is below its two header lines and not blank. -/
def rows (listing : String) : List (List Char) :=
  ((lines listing.toList).drop 2).filter fun line => !line.all isBlank

/-- The first port of a listing. -/
def tapOf (listing : String) : Except Violation Tap :=
  match rows listing with
  | [] => .error (.noTaps listing)
  | row :: _ =>
    match tapIn? row with
    | some tap => .ok tap
    | none => .error (.noTapName (String.ofList row))

/-- The label before the register width in a hart's description. -/
def xlenLabel : List Char := "hart.xlen".toList

/-- The digits after the label at the beginning of a text. -/
def xlenDigitsAt? (text : List Char) : Option (List Char) :=
  if xlenLabel.isPrefixOf text then
    match text.drop xlenLabel.length with
    | [] => none
    | c :: rest =>
      if isBlank c then
        match (rest.dropWhile isBlank).takeWhile isDecimalDigit with
        | [] => none
        | digits => some digits
      else none
  else none

/-- The digits after the first label that has some. -/
def xlenDigits? : List Char → Option (List Char)
  | [] => none
  | c :: rest =>
    match xlenDigitsAt? (c :: rest) with
    | some digits => some digits
    | none => xlenDigits? rest

/-- The register width of a hart's description. -/
def xlenOf (description : String) : Except Violation Nat :=
  match xlenDigits? description.toList with
  | none => .error (.noXlen description)
  | some digits =>
    match Numeral.readNatural 10 (1 <<< 32) digits with
    | .ok xlen => .ok xlen
    | .error _ => .error (.noXlen description)

end ScanChain

end HartDebug
