import HartDebug.DebugModule
import HartDebug.Wire.Link
import HartDebug.Wire.Reply

/-!
# The adapter's console

Text meant for people, over Telnet: a command is a line, which the console repeats before its answer,
and every answer ends in the prompt.

* `Console.executeLines`, `Console.execute` — run a command, with its answer as lines or as one;
* `Console.scan` — shift a word through the data register of an instruction.
-/

namespace HartDebug

/-- A session with an adapter's console. -/
structure Console (σ : Type) where
  link : Link σ

namespace Console

variable {σ α : Type}

/-- What ends every answer. -/
def prompt : List Byte := Utf8.bytes "> "

/-- A console that has not been connected. -/
def forConfig (config : SessionConfig) (dial : Endpoint → Except StreamFault σ) : Console σ where
  link := { endpoint := config.endpointOr Endpoint.consolePort, dial := dial, tapName := config.tapName }

/-- A console over a stream that is open already. -/
def ofStream (stream : σ) (config : SessionConfig) (dial : Endpoint → Except StreamFault σ) :
    Console σ :=
  let c := forConfig config dial
  { c with link := { c.link with connection := some { stream := stream } } }

def onLink (x : Action DebugError (Link σ) α) : Action DebugError (Console σ) α :=
  x.onPart (·.link) fun l c => { c with link := l }

def setTapName (name : String) : Action DebugError (Console σ) Unit :=
  onLink (modify fun l => { l with tapName := name })

variable [ByteStream σ]

/-- Read an answer up to the prompt, without the carriage returns in it. -/
def readAnswer : Action DebugError (Console σ) String := do
  let answer ← onLink (Link.use (Connection.readUntil prompt true))
  pure (String.ofList ((Utf8.decode answer).filter (· != '\r')))

/-- Send a command and read it back. -/
def sendLine (command : String) : Action DebugError (Console σ) Unit := do
  Action.log .debug .console s!"Executing command: '{command}'"
  onLink (Link.use do
    Connection.send (Utf8.bytes (command ++ "\n"))
    discard (Connection.readUntil (Utf8.bytes "\n") true))

/-- Run a command, with its answer as it stands. -/
def executeLines (command : String) : Action DebugError (Console σ) String := do
  sendLine command
  readAnswer

/-- Run a command, with its answer on one line. -/
def execute (command : String) : Action DebugError (Console σ) String := do
  let answer ← executeLines command
  pure (String.ofList (answer.toList.filter (· != '\n')))

/-- Shift a word through the data register of an instruction. -/
def scan (i : Instruction) (value : Word) : Action DebugError (Console σ) String := do
  let tap := (← get).link.tapName
  discard (execute (i.selectCommand tap))
  execute (i.shiftCommand tap value)

instance : Transport (Console σ) where
  isLive _ := true
  connect := do
    onLink (Link.dialUnlessOpen .console "console")
    -- The greeting ends in the prompt, as an answer does.
    discard readAnswer
  disconnect := onLink (Link.hangUp (Utf8.bytes "exit\n"))
  write address data := do
    let answer ← execute s!"riscv dmi_write {Hex.text address.toNat} {Hex.text data.toNat}"
    discard (Reply.unlessFailed .console answer)
  read address := do
    let answer ← execute s!"riscv dmi_read {Hex.text address.toNat}"
    let answer ← Reply.unlessFailed .console answer
    Action.ofExcept (Reply.word answer)
  writeDtmcs value := discard (scan .dtmcs value)
  readDtmcs := do
    let answer ← scan .dtmcs 0
    Action.ofExcept (Reply.word answer)
  readIdcode := do
    let answer ← scan .idcode 0
    Action.ofExcept (Reply.word answer)
  resetTap := discard (execute "pathmove RESET IDLE")

instance : ReadsBack (Console σ) where
  live _ := rfl
  expect_eq := rfl
  expectIdcode_eq := rfl

end Console

end HartDebug
