import HartDebug.CommandLine.Number
import HartDebug.CommandLine.Usage
import HartDebug.Config

/-!
# What a command line can say

The verbs of the command line, the arguments each of them takes, and the values of the arguments.

* `Verb` — what is to be done;
* `Argument` — a named or positional argument;
* `Given` — the values given so far, and `Given.accept`, one more value.
-/

namespace HartDebug

/-- How the debug module is reached. -/
inductive TransportKind where
  | console
  | tcl
  | svf
  deriving DecidableEq, Repr

namespace TransportKind

def ofName? : String → Option TransportKind
  | "console" => some .console
  | "tcl" => some .tcl
  | "svf" => some .svf
  | _ => none

end TransportKind

/-- A shell for which completions can be asked. -/
inductive Shell where
  | bash
  | elvish
  | fish
  | powershell
  | zsh
  deriving DecidableEq, Repr

namespace Shell

def ofName? : String → Option Shell
  | "bash" => some .bash
  | "elvish" => some .elvish
  | "fish" => some .fish
  | "powershell" => some .powershell
  | "zsh" => some .zsh
  | _ => none

end Shell

/-- An argument of the command line. -/
inductive Argument where
  | transport
  | host
  | port
  | output
  | width
  | tap
  | busyTimeout
  | progbufCapacity
  | halt
  | float
  | json
  | discover
  | hard
  | expect
  | register
  | value
  | instructions
  | shell
  deriving DecidableEq, Repr

namespace Argument

/-- The argument is given by its name alone. -/
def isFlag : Argument → Bool
  | .halt => true
  | .float => true
  | .json => true
  | .discover => true
  | .hard => true
  | _ => false

/-- The argument takes any number of values. -/
def isRepeatable : Argument → Bool
  | .instructions => true
  | _ => false

/-- The name of an argument after two dashes. -/
def longName : Argument → String
  | .transport => "transport"
  | .host => "host"
  | .port => "port"
  | .output => "output"
  | .width => "width"
  | .tap => "tap"
  | .busyTimeout => "busy-timeout"
  | .progbufCapacity => "progbuf-capacity"
  | .halt => "halt"
  | .float => "float"
  | .json => "json"
  | .discover => "discover"
  | .hard => "hard"
  | .expect => "expect"
  | .register => "register"
  | .value => "value"
  | .instructions => "instructions"
  | .shell => "shell"

/-- The letter of an argument after one dash. -/
def letter? : Argument → Option Char
  | .transport => some 't'
  | .port => some 'p'
  | .output => some 'o'
  | .width => some 'w'
  | _ => none

/-- The arguments that may stand anywhere. -/
def anywhere : List Argument :=
  [.transport, .host, .port, .output, .width, .tap, .busyTimeout, .progbufCapacity]

end Argument

/-- What is to be done. -/
inductive Verb where
  | status
  | halt
  | resume
  | step
  | reset
  | read
  | write
  | expect
  | dump
  | exec
  | diagnose
  | dmReset
  | dtmReset
  | idcode
  | complete
  deriving DecidableEq, Repr

namespace Verb

def all : List Verb :=
  [.status, .halt, .resume, .step, .reset, .read, .write, .expect, .dump, .exec, .diagnose, .dmReset,
   .dtmReset, .idcode, .complete]

def name : Verb → String
  | .status => "status"
  | .halt => "halt"
  | .resume => "resume"
  | .step => "step"
  | .reset => "reset"
  | .read => "read"
  | .write => "write"
  | .expect => "expect"
  | .dump => "dump"
  | .exec => "exec"
  | .diagnose => "diagnose"
  | .dmReset => "dm-reset"
  | .dtmReset => "dtm-reset"
  | .idcode => "idcode"
  | .complete => "complete"

def ofName? (name : String) : Option Verb :=
  all.find? (·.name == name)

/-- The named arguments of a verb, beside those that may stand anywhere. -/
def named : Verb → List Argument
  | .reset => [.halt]
  | .dump => [.float, .json]
  | .exec => [.discover]
  | .dtmReset => [.hard]
  | .idcode => [.expect]
  | _ => []

/-- The arguments of a verb that are given by their position; all are required. -/
def positional : Verb → List Argument
  | .read => [.register]
  | .write => [.register, .value]
  | .expect => [.register, .value]
  | .exec => [.instructions]
  | .complete => [.shell]
  | _ => []

end Verb

/-- The values given on a command line. -/
structure Given where
  transport : Option TransportKind := none
  choices : SessionChoices := {}
  halt : Bool := false
  float : Bool := false
  json : Bool := false
  discover : Bool := false
  hard : Bool := false
  expect : Option Word := none
  register : Option String := none
  value : Option Value := none
  instructions : List Word := []
  shell : Option Shell := none
  deriving DecidableEq, Repr

namespace Given

/-- A numeral below a limit, or why it is refused. -/
def readNatural (limit : Nat) (text : String) : Except UsageError Nat :=
  (Numeral.readNatural 10 limit text.toList).mapError fun e => .valueValidation e.message

/-- A port number. -/
def readPort (text : String) : Except UsageError Nat :=
  match Numeral.readInteger (1 <<< 63) text.toList with
  | .error e => .error (.valueValidation e.message)
  | .ok n =>
    if 0 ≤ n ∧ n ≤ 65535 then .ok n.toNat
    else .error (.valueValidation s!"{n} is not in 0..=65535")

/-- A transfer width in bits. -/
def readWidth (text : String) : Except UsageError TransferWidth := do
  let bits ← readNatural (1 <<< 32) text
  (TransferWidth.ofBits bits).mapError fun e => .valueValidation e.message

/-- One of several names. -/
def readName {α : Type} (ofName? : String → Option α) (text : String) : Except UsageError α :=
  match ofName? text with
  | some a => .ok a
  | none => .error .invalidValue

/-- A number in the syntax for values and instructions. -/
def readNumber {α : Type} (read : String → Except Number.Fault α) (text : String) :
    Except UsageError α :=
  (read text).mapError fun e => .valueValidation e.message

/-- Take the value of an argument; that of a flag does not matter. -/
def accept (g : Given) (text : String) : Argument → Except UsageError Given
  | .transport => do
    let kind ← readName TransportKind.ofName? text
    pure { g with transport := some kind }
  | .host => pure { g with choices := { g.choices with host := some text } }
  | .port => do
    let port ← readPort text
    pure { g with choices := { g.choices with port := some port } }
  | .output =>
    if text = "" then throw .invalidValue
    else pure { g with choices := { g.choices with vectorOutput := some text } }
  | .width => do
    let width ← readWidth text
    pure { g with choices := { g.choices with width := some width } }
  | .tap => pure { g with choices := { g.choices with tapName := some text } }
  | .busyTimeout => do
    let millis ← readNatural (1 <<< 64) text
    pure { g with choices := { g.choices with busyTimeout := some (.ofMillis millis) } }
  | .progbufCapacity => do
    let words ← readNatural (1 <<< 64) text
    pure { g with choices := { g.choices with progbufCapacity := some words } }
  | .halt => pure { g with halt := true }
  | .float => pure { g with float := true }
  | .json => pure { g with json := true }
  | .discover => pure { g with discover := true }
  | .hard => pure { g with hard := true }
  | .expect => do
    let word ← readNumber Number.readWord text
    pure { g with expect := some word }
  | .register => pure { g with register := some text }
  | .value => do
    let value ← readNumber Number.readValue text
    pure { g with value := some value }
  | .instructions => do
    let word ← readNumber Number.readWord text
    pure { g with instructions := g.instructions ++ [word] }
  | .shell => do
    let shell ← readName Shell.ofName? text
    pure { g with shell := some shell }

/-- The choices given before a verb, with those given after it in their place. -/
def choicesWith (before after : SessionChoices) : SessionChoices where
  host := after.host <|> before.host
  port := after.port <|> before.port
  vectorOutput := after.vectorOutput <|> before.vectorOutput
  width := after.width <|> before.width
  tapName := after.tapName <|> before.tapName
  busyTimeout := after.busyTimeout <|> before.busyTimeout
  progbufCapacity := after.progbufCapacity <|> before.progbufCapacity

end Given

end HartDebug
