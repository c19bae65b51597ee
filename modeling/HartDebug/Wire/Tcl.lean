import HartDebug.DebugModule
import HartDebug.Wire.Link
import HartDebug.Wire.Reply

/-!
# The adapter's Tcl server

Commands and replies framed by an end mark.  What a command prints, rather than returns, comes back when
the command is run under `capture`, whose argument is a quoted Tcl word.

* `Tcl.quoteBody` — a command as the inside of a quoted word;
* `Tcl.unwrapBraces` — a captured reply without the braces of a list around it;
* `TclServer.send`, `TclServer.capture` — run a command.
-/

namespace HartDebug

namespace Tcl

/-- The characters that mean something inside a quoted word. -/
def isSpecial (c : Char) : Bool :=
  c == '"' || c == '\\' || c == '[' || c == ']' || c == '$'

/-- A text as the inside of a quoted word. -/
def quoteBody (text : List Char) : List Char :=
  text.flatMap fun c => if isSpecial c then ['\\', c] else [c]

/-- The last character of a text dropped, if it is a closing brace. -/
def dropClosing? (text : List Char) : Option (List Char) :=
  match text.getLast? with
  | some '\x7d' => some text.dropLast
  | _ => none

/-- A reply without blanks at its ends and without the braces of a list around it. -/
def unwrapBraces (reply : String) : String :=
  let reply := Text.trim reply
  match reply.toList with
  | '\x7b' :: inner =>
    match dropClosing? inner with
    | some body => Text.trim (String.ofList body)
    | none => reply
  | _ => reply

end Tcl

/-- A session with an adapter's Tcl server. -/
structure TclServer (σ : Type) where
  link : Link σ

namespace TclServer

variable {σ α : Type}

/-- What ends every command and every reply. -/
def endMark : Byte := 0x1a

/-- A session that has not been connected. -/
def forConfig (config : SessionConfig) (dial : Endpoint → Except StreamFault σ) : TclServer σ where
  link := { endpoint := config.endpointOr Endpoint.tclPort, dial := dial, tapName := config.tapName }

/-- A session over a stream that is open already. -/
def ofStream (stream : σ) (config : SessionConfig) (dial : Endpoint → Except StreamFault σ) :
    TclServer σ :=
  let c := forConfig config dial
  { c with link := { c.link with connection := some { stream := stream } } }

def onLink (x : Action DebugError (Link σ) α) : Action DebugError (TclServer σ) α :=
  x.onPart (·.link) fun l c => { c with link := l }

def setTapName (name : String) : Action DebugError (TclServer σ) Unit :=
  onLink (modify fun l => { l with tapName := name })

variable [ByteStream σ]

/-- Run a command, with its result without the blanks at the end. -/
def send (command : String) : Action DebugError (TclServer σ) String := do
  Action.log .debug .tcl s!"Executing command: '{command}'"
  onLink (Link.use do
    Connection.send (Utf8.bytes command ++ [endMark])
    let reply ← Connection.readUntil [endMark] false
    pure (Text.trimEnd (Utf8.text reply)))

/-- Run a command, with what it prints as the result. -/
def capture (command : String) : Action DebugError (TclServer σ) String := do
  let body := String.ofList (Tcl.quoteBody command.toList)
  let reply ← send ("capture \"" ++ body ++ "\"")
  pure (Tcl.unwrapBraces reply)

/-- Shift a word through the data register of an instruction. -/
def scan (i : Instruction) (value : Word) : Action DebugError (TclServer σ) String := do
  let tap := (← get).link.tapName
  discard (send (i.selectCommand tap))
  capture (i.shiftCommand tap value)

instance : Transport (TclServer σ) where
  isLive _ := true
  connect := onLink (Link.dialUnlessOpen .tcl "Tcl server")
  disconnect := onLink (Link.hangUp (Utf8.bytes "exit" ++ [endMark]))
  write address data := do
    let reply ← capture s!"riscv dmi_write {Hex.text address.toNat} {Hex.text data.toNat}"
    discard (Reply.unlessFailed .tcl reply)
  read address := do
    let reply ← capture s!"riscv dmi_read {Hex.text address.toNat}"
    let reply ← Reply.unlessFailed .tcl reply
    Action.ofExcept (Reply.word reply)
  writeDtmcs value := discard (scan .dtmcs value)
  readDtmcs := do
    let reply ← scan .dtmcs 0
    Action.ofExcept (Reply.word reply)
  readIdcode := do
    let reply ← scan .idcode 0
    Action.ofExcept (Reply.word reply)
  resetTap := discard (send "pathmove RESET IDLE")

instance : ReadsBack (TclServer σ) where
  live _ := rfl
  expect_eq := rfl
  expectIdcode_eq := rfl

end TclServer

end HartDebug
