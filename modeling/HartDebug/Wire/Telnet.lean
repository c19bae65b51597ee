import HartDebug.Word

/-!
# Telnet commands in a stream

A console is reached over Telnet, whose commands stand among the octets of the text.  Each begins with
the octet 255.  A machine that looks at one octet at a time tells what is text and what is part of a
command.

* `Telnet.Mode` — where the machine stands;
* `Telnet.step` — one octet: where the machine stands afterwards, and the octet if it is text.
-/

namespace HartDebug.Telnet

/-- The octet that begins a command. -/
def interpretAsCommand : Byte := 255

/-- The command that begins a subnegotiation. -/
def subnegotiationBegin : Byte := 250

/-- The command that ends a subnegotiation. -/
def subnegotiationEnd : Byte := 240

/-- The commands that offer or ask for an option, and are followed by it. -/
def negotiatesOption (b : Byte) : Bool :=
  251 ≤ b && b ≤ 254

/-- Where in a stream an octet stands. -/
inductive Mode where
  | text
  /-- After the octet that begins a command. -/
  | command
  /-- After a command that is followed by an option. -/
  | option
  /-- Inside a subnegotiation, after an octet of it. -/
  | subnegotiation (previous : Byte)
  deriving DecidableEq, Repr

/-- Look at one octet. -/
def step : Mode → Byte → Mode × Option Byte
  | .text, b => if b = interpretAsCommand then (.command, none) else (.text, some b)
  | .command, b =>
    if negotiatesOption b then (.option, none)
    else if b = subnegotiationBegin then (.subnegotiation 0, none)
    else (.text, none)
  | .option, _ => (.text, none)
  | .subnegotiation previous, b =>
    if previous = interpretAsCommand ∧ b = subnegotiationEnd then (.text, none)
    else (.subnegotiation b, none)

end HartDebug.Telnet
