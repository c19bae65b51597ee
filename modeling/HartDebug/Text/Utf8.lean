import HartDebug.Word

/-!
# Reading octets as text

Octets read as UTF-8 with nothing refused: each stretch of octets that begins like a character but
cannot be continued to one, and each octet that begins none, stands for one replacement character.
The reader is a machine that looks at one octet at a time, so a stretch ends exactly at the first octet
that cannot continue it.

* `Utf8.decode` — octets to characters;
* `Utf8.text` — octets to a string;
* `Utf8.bytes` — a string to its octets;
* `Utf8.bytes_inj` — different strings have different octets.
-/

namespace HartDebug.Utf8

/-- What stands for octets that are no character. -/
def replacement : Char := Char.ofNat 0xfffd

/-- A character of which the first octets have been read: how many more are owed, which octets may
come next, and the bits read so far. -/
structure Begun where
  owed : Nat
  low : Byte
  high : Byte
  bits : Nat
  deriving DecidableEq, Repr

/-- What an octet is at the beginning of a character. -/
inductive Lead where
  | whole (c : Char)
  | begun (b : Begun)
  | none
  deriving DecidableEq, Repr

/-- Read the first octet of a character.  The bounds on the second octet keep out overlong forms,
surrogates and code points past the last one. -/
def lead (b : Byte) : Lead :=
  let n := b.toNat
  if n < 0x80 then .whole (Char.ofNat n)
  else if n < 0xc2 then .none
  else if n < 0xe0 then .begun ⟨1, 0x80, 0xbf, n - 0xc0⟩
  else if n = 0xe0 then .begun ⟨2, 0xa0, 0xbf, 0⟩
  else if n = 0xed then .begun ⟨2, 0x80, 0x9f, 0xd⟩
  else if n < 0xf0 then .begun ⟨2, 0x80, 0xbf, n - 0xe0⟩
  else if n = 0xf0 then .begun ⟨3, 0x90, 0xbf, 0⟩
  else if n < 0xf4 then .begun ⟨3, 0x80, 0xbf, n - 0xf0⟩
  else if n = 0xf4 then .begun ⟨3, 0x80, 0x8f, 4⟩
  else .none

/-- Start a character at `b`: the characters that are certain now, and what has been begun. -/
def start (b : Byte) : List Char × Option Begun :=
  match lead b with
  | .whole c => ([c], none)
  | .begun p => ([], some p)
  | .none => ([replacement], none)

/-- Read one octet, with `begun` before it. -/
def step : Option Begun → Byte → List Char × Option Begun
  | none, b => start b
  | some p, b =>
    if p.low ≤ b ∧ b ≤ p.high then
      let bits := p.bits * 0x40 + (b.toNat - 0x80)
      if p.owed ≤ 1 then ([Char.ofNat bits], none)
      else ([], some ⟨p.owed - 1, 0x80, 0xbf, bits⟩)
    else
      let (cs, next) := start b
      (replacement :: cs, next)

/-- The characters of octets that come after `begun`. -/
def decodeAfter : Option Begun → List Byte → List Char
  | none, [] => []
  | some _, [] => [replacement]
  | begun, b :: rest =>
    let (cs, next) := step begun b
    cs ++ decodeAfter next rest

/-- The characters that octets stand for. -/
def decode (bytes : List Byte) : List Char :=
  decodeAfter none bytes

/-- The text that octets stand for. -/
def text (bytes : List Byte) : String :=
  String.ofList (decode bytes)

/-- The octets of a text. -/
def bytes (text : String) : List Byte :=
  text.toUTF8.toList

/-- The octets that are left from an index on, in order, after those collected in reverse. -/
theorem toList_loop (octets : ByteArray) (i : Nat) (before : List UInt8) :
    ByteArray.toList.loop octets i before = before.reverse ++ octets.data.toList.drop i := by
  fun_induction ByteArray.toList.loop octets i before with
  | case1 i before inside ih =>
    have inside' : i < octets.data.toList.length := inside
    have here : octets.get! i = octets.data.toList[i] := getElem!_pos octets.data i inside
    rw [ih, List.drop_eq_getElem_cons inside', here, List.reverse_cons, List.append_assoc]
    rfl
  | case2 i before outside =>
    have outside' : octets.data.toList.length ≤ i := Nat.le_of_not_lt outside
    rw [List.drop_of_length_le outside', List.append_nil]

theorem bytes_eq_data (s : String) : bytes s = s.toByteArray.data.toList := by
  rw [bytes, String.toUTF8, ByteArray.toList, toList_loop]
  rfl

/-- Different texts have different octets. -/
theorem bytes_inj {s t : String} : bytes s = bytes t ↔ s = t := by
  rw [bytes_eq_data, bytes_eq_data, Array.toList_inj, ← String.toByteArray_inj]
  exact ⟨ByteArray.ext, congrArg ByteArray.data⟩

end HartDebug.Utf8
