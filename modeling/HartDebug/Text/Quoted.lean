import HartDebug.Text.Hex
import HartDebug.Text.Hidden

/-!
# Quoted text

Text between double quotes with every character that would not show, or would end the quotation, written
as an escape.  The log shows in this form what passes over the wire.
-/

namespace HartDebug.Text

/-- A character by its code point. -/
def escapeCode (c : Char) : List Char :=
  ['\\', 'u', '\x7b'] ++ Hex.digits c.toNat ++ ['\x7d']

/-- A character as it is written between quotes. -/
def escape (c : Char) : List Char :=
  if c = '\x00' then ['\\', '0']
  else if c = '\t' then ['\\', 't']
  else if c = '\n' then ['\\', 'n']
  else if c = '\r' then ['\\', 'r']
  else if c = '"' then ['\\', '"']
  else if c = '\\' then ['\\', '\\']
  else if c.toNat < 0x20 ∨ c.toNat = 0x7f then escapeCode c
  else if c.toNat < 0x7f then [c]
  else if isHidden c then escapeCode c
  else [c]

/-- A text between quotes. -/
def quoted (text : String) : String :=
  String.ofList (['"'] ++ text.toList.flatMap escape ++ ['"'])

end HartDebug.Text
