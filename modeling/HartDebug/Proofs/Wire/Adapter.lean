import HartDebug.Proofs.Text.Octets
import HartDebug.Target.Simulated
import HartDebug.Text.Hex
import HartDebug.Text.Numeral
import HartDebug.Wire.Stream

/-!
# An adapter over a simulated module

The other end of a wire: an adapter that takes commands octet by octet, runs each on a simulated module
behind its test access port, and prints what the command has found.  It answers correctly, but in a manner
of its own each time: with or without a mark and leading zeros before a number, in digits of either case,
with or without line ends and braces, and in pieces of any size.

* `AdapterPort.perform` — what the requests do to the module;
* `AdapterPort.request?` — the request that a command is;
* `Manner` — the wording of an answer;
* `Service.answer` — the answer of a service to a command;
* `Adapter` — the stream.
-/

namespace HartDebug

/-! ## The port -/

/-- What an adapter can be asked to do at its port. -/
inductive PortRequest where
  | write (address : BusAddress) (data : Word)
  | read (address : BusAddress)
  /-- Shift an opcode into the instruction register. -/
  | select (opcode : BitVec 8)
  /-- Shift a word through the data register that is selected. -/
  | shift (value : Word)
  | reset
  deriving DecidableEq, Repr

/-- What a command prints. -/
inductive Output where
  | nothing
  | number (value : Word)
  | refusal
  deriving DecidableEq, Repr

/-- The test access port of an adapter and the module behind it. -/
structure AdapterPort where
  /-- The octets of the name that the port goes by. -/
  name : List Byte
  module : SimulatedModule
  /-- The instruction that is selected. -/
  opcode : BitVec 8 := 0x01
  deriving DecidableEq, Repr

namespace AdapterPort

/-- Do what is asked for.  A shift captures what its data register holds before it is written; only those
of the debug transport and of the identification are there. -/
def perform (p : AdapterPort) : PortRequest → Output × AdapterPort
  | .write address data => (.nothing, { p with module := p.module.writeBus address data })
  | .read address =>
    (.number (p.module.readBus address).1, { p with module := (p.module.readBus address).2 })
  | .select opcode => (.nothing, { p with opcode := opcode })
  | .shift value =>
    if p.opcode = 0x10 then
      (.number p.module.transportStatus, { p with module := p.module.writeTransport value })
    else if p.opcode = 0x01 then (.number p.module.idcode, p)
    else (.refusal, p)
  | .reset =>
    (.nothing, { p with module := { p.module with tapResets := p.module.tapResets + 1 }, opcode := 0x01 })

/-! ### Commands -/

/-- What separates the words of a command. -/
def blank : Byte := 0x20

/-- The words of a command. -/
def words : List Byte → List (List Byte)
  | [] => [[]]
  | b :: rest =>
    if b = blank then [] :: words rest
    else
      match words rest with
      | [] => [[b]]
      | word :: others => (b :: word) :: others

/-- The number below a limit that a word is, in hexadecimal if it is marked so and otherwise in decimal. -/
def number? (limit : Nat) (word : List Byte) : Option Nat :=
  let read :=
    match Utf8.decode word with
    | '0' :: 'x' :: digits => Numeral.readNatural 16 limit digits
    | digits => Numeral.readNatural 10 limit digits
  read.toOption

/-- The request that a command is, if it is one to this port. -/
def request? (p : AdapterPort) (command : List Byte) : Option PortRequest :=
  match words command with
  | [verb, first, second] =>
    if verb = Utf8.bytes "riscv" ∧ first = Utf8.bytes "dmi_read" then
      (number? 0x100 second).map fun address => .read (BitVec.ofNat 8 address)
    else if verb = Utf8.bytes "irscan" ∧ first = p.name then
      (number? 0x100 second).map fun opcode => .select (BitVec.ofNat 8 opcode)
    else if verb = Utf8.bytes "pathmove" ∧ first = Utf8.bytes "RESET" ∧ second = Utf8.bytes "IDLE" then
      some .reset
    else none
  | [verb, first, second, third] =>
    if verb = Utf8.bytes "riscv" ∧ first = Utf8.bytes "dmi_write" then
      match number? 0x100 second, number? (1 <<< 32) third with
      | some address, some data => some (.write (BitVec.ofNat 8 address) (BitVec.ofNat 32 data))
      | _, _ => none
    else if verb = Utf8.bytes "drscan" ∧ first = p.name ∧ number? 0x100 second = some 32 then
      (number? (1 <<< 32) third).map fun value => .shift (BitVec.ofNat 32 value)
    else none
  | _ => none

/-- Run a command. -/
def execute (p : AdapterPort) (command : List Byte) : Output × AdapterPort :=
  match p.request? command with
  | some request => p.perform request
  | none => (.refusal, p)

end AdapterPort

/-! ## The wording of answers -/

/-- What stands before the digits of a number. -/
inductive HexMark where
  | none
  | lower
  | upper
  deriving DecidableEq, Repr

def HexMark.text : HexMark → List Char
  | .none => []
  | .lower => ['0', 'x']
  | .upper => ['0', 'X']

/-- How a line of output ends. -/
inductive LineEnd where
  | none
  | feed
  | returnFeed
  deriving DecidableEq, Repr

def LineEnd.text : LineEnd → List Char
  | .none => []
  | .feed => ['\n']
  | .returnFeed => ['\r', '\n']

/-- The manner of one answer. -/
structure Manner where
  mark : HexMark := .lower
  /-- A number has at least as many digits. -/
  least : Nat := 0
  /-- The digits of a number are in upper case. -/
  upper : Bool := false
  /-- What ends the line that a number stands on. -/
  lineEnd : LineEnd := .feed
  /-- The repeated command ends with a carriage return before its line feed. -/
  echoReturn : Bool := true
  /-- What was captured comes in the braces of a list. -/
  braces : Bool := false
  /-- What ends the line of a reply. -/
  replyEnd : LineEnd := .none
  deriving DecidableEq, Repr

namespace Manner

/-- A digit in the case that was chosen. -/
def digit (m : Manner) (c : Char) : Char :=
  if m.upper then c.toUpper else c

/-- The digits of a number. -/
def digits (m : Manner) (value : Word) : List Char :=
  (Hex.paddedDigits m.least value.toNat).map m.digit

/-- A number as it is printed. -/
def numeral (m : Manner) (value : Word) : List Char :=
  m.mark.text ++ m.digits value

/-- What a command prints, in words. -/
def wording (m : Manner) : Output → List Char
  | .nothing => []
  | .number value => m.numeral value ++ m.lineEnd.text
  | .refusal => "Failed to run the command".toList

/-- The answer of the console: the command once more, on a line of its own, the output and the prompt. -/
def consoleAnswer (m : Manner) (command : List Byte) (output : Output) : List Byte :=
  command ++ (if m.echoReturn then [0x0d] else []) ++ [0x0a] ++ (m.wording output).map Utf8.octet ++
    [0x3e, 0x20]

/-- A reply of the Tcl server: the output, in braces perhaps if it was captured. -/
def replyText (m : Manner) (captured : Bool) (output : Output) : List Char :=
  let text := m.wording output
  (if captured && m.braces then '\x7b' :: text ++ ['\x7d'] else text) ++ m.replyEnd.text

/-- A reply with its end mark. -/
def tclReply (m : Manner) (captured : Bool) (output : Output) : List Byte :=
  (m.replyText captured output).map Utf8.octet ++ [0x1a]

end Manner

/-! ## Services -/

/-- The services of an adapter. -/
inductive Service where
  | console
  | tcl
  deriving DecidableEq, Repr

namespace Service

/-- The octet that ends a command. -/
def commandEnd : Service → Byte
  | .console => 0x0a
  | .tcl => 0x1a

/-- The inside of a quoted word, with each escaped octet as it stands. -/
def unquoted : List Byte → List Byte
  | 0x5c :: b :: rest => b :: unquoted rest
  | b :: rest => b :: unquoted rest
  | [] => []

/-- The command whose output is to be captured, if a command asks for that. -/
def captured? (command : List Byte) : Option (List Byte) :=
  match (Utf8.bytes "capture \"").isPrefixOf? command with
  | some quoted => if quoted.getLast? = some 0x22 then some (unquoted quoted.dropLast) else none
  | none => none

/-- Run a command and answer it. -/
def answer (service : Service) (m : Manner) (p : AdapterPort) (command : List Byte) :
    List Byte × AdapterPort :=
  match service with
  | .console =>
    let (output, p) := p.execute command
    (m.consoleAnswer command output, p)
  | .tcl =>
    match captured? command with
    | some inner =>
      let (output, p) := p.execute inner
      (m.tclReply true output, p)
    | none =>
      let (output, p) := p.execute command
      (m.tclReply false output, p)

end Service

/-! ## The stream -/

/-- An adapter as a stream: octets of commands go in and octets of answers come out. -/
structure Adapter where
  service : Service
  port : AdapterPort
  /-- The manner of each answer, by the number of answers before it. -/
  manner : Nat → Manner
  /-- One less than the most octets that are taken or given at a time, by the number of times before. -/
  sizes : Nat → Nat
  answers : Nat := 0
  moves : Nat := 0
  /-- What has come of a command so far. -/
  line : List Byte := []
  /-- What is still to be given. -/
  outgoing : List Byte := []

namespace Adapter

/-- Answer the command that has come. -/
def answer (a : Adapter) : Adapter :=
  let (octets, port) := a.service.answer (a.manner a.answers) a.port a.line
  { a with port := port, answers := a.answers + 1, line := [], outgoing := a.outgoing ++ octets }

/-- Take an octet. -/
def feed (a : Adapter) (b : Byte) : Adapter :=
  if b = a.service.commandEnd then a.answer else { a with line := a.line ++ [b] }

def receive (a : Adapter) : Except StreamFault (List Byte) × Adapter :=
  if a.outgoing.isEmpty then (.error .pending, a)
  else
    let most := a.sizes a.moves + 1
    (.ok (a.outgoing.take most), { a with outgoing := a.outgoing.drop most, moves := a.moves + 1 })

def offer (octets : List Byte) (a : Adapter) : Except StreamFault Nat × Adapter :=
  let most := octets.length.min (a.sizes a.moves + 1)
  (.ok most, (octets.take most).foldl feed { a with moves := a.moves + 1 })

theorem supply_lt {a a' : Adapter} {b : Byte} {rest : List Byte}
    (h : a.receive = (.ok (b :: rest), a')) : a'.outgoing.length < a.outgoing.length := by
  rw [receive] at h
  split at h
  · cases h
  · next some_left =>
    have left : 0 < a.outgoing.length := by
      rw [List.isEmpty_iff] at some_left
      exact List.length_pos_iff.2 some_left
    obtain rfl := (Prod.mk.inj h).2
    show (a.outgoing.drop _).length < _
    rw [List.length_drop]
    omega

instance : ByteStream Adapter where
  receive := receive
  offer := offer
  supply a := a.outgoing.length
  supply_lt := supply_lt

end Adapter

end HartDebug
