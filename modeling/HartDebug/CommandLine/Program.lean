import HartDebug.CommandLine.Commands
import HartDebug.Session.Interrogation
import HartDebug.Vector.Emitter
import HartDebug.Wire.Tcl

/-!
# The whole program

From a command line to an exit code.  What the program meets on its way is given as data: what becomes of
attempts to reach an adapter, the clock, and the files that can be written.

* `Surroundings` — what the program meets;
* `Ending` — what it leaves;
* `Program.run` — the run in between.
-/

namespace HartDebug

/-- What a run of the program meets. -/
structure Surroundings (σ : Type) where
  dial : Endpoint → Except StreamFault σ
  clock : Clock
  disk : Disk

/-- Why the program failed. -/
inductive Failure where
  | usage (error : UsageError)
  | report (report : Report)
  deriving DecidableEq, Repr

/-- What a run of the program leaves. -/
structure Ending where
  failure : Option Failure
  said : List Utterance := []
  /-- What the adapter has taken, if one was reached. -/
  sent : Option (List Byte) := none
  /-- The files written, with their contents. -/
  files : List (String × String) := []
  /-- How often the clock was looked at. -/
  looks : Nat := 0
  /-- How many nanoseconds were spent waiting. -/
  waited : Nat := 0

namespace Ending

def exitCode (e : Ending) : Nat :=
  match e.failure with
  | none => 0
  | some (.usage error) => error.exitCode
  | some (.report _) => 1

/-- The run ended because it was to read an answer that has not come yet. -/
def awaitsAnswer (e : Ending) : Bool :=
  match e.failure with
  | some (.report ⟨_, .transport _ .pending⟩) => true
  | _ => false

end Ending

namespace Program

variable {σ τ α : Type}

/-- Run a subcommand and end the session, also when the subcommand fails. -/
def runAndClose [Transport τ] (command : Subcommand) : Action Report (Session τ) Unit := do
  let outcome ← Action.attempt command.run
  Report.of Session.close
  Action.ofExcept outcome

/-- A session with the adapter's console: the target is asked about before anything else. -/
def onConsole [ByteStream σ] (command : Subcommand) : Action Report (Session (Console σ)) Unit := do
  Report.of Session.start
  Report.of Session.interrogate
  Report.of Session.activateDm
  runAndClose command

/-- A session with the adapter's Tcl server. -/
def onTcl [ByteStream σ] (command : Subcommand) : Action Report (Session (TclServer σ)) Unit := do
  Report.of Session.start
  Report.of Session.activateDm
  runAndClose command

/-- A recording of vectors, which goes to its file, or else is printed. -/
def onVectors (command : Subcommand) : Action Report (Session VectorEmitter) Unit := do
  let config := (← get).config
  if config.width.isNone then
    Action.log .warn .program
      s!"No transfer width given for SVF output, assuming {TransferWidth.w64.bits}"
  Report.of Session.start
  Report.of Session.resetTap
  Report.of Session.activateDm
  runAndClose command
  match config.vectorOutput with
  | some path => Action.log .info .program s!"Vectors written to {path}"
  | none => Action.say (.print (← get).transport.artifact)

/-- What the adapter behind a link has taken, if it was ever reached. -/
def sentOver (l : Link σ) : Option (List Byte) :=
  if l.closed.isEmpty && l.connection.isNone then none else some l.sent

/-- What an action on a session leaves. -/
def ending (ran : Ran Report (Session τ) Unit) (sent : Option (List Byte))
    (files : List (String × String)) : Ending where
  failure := match ran.outcome with
    | .ok () => none
    | .error report => some (.report report)
  said := ran.said
  sent := sent
  files := files
  looks := ran.state.timer.looks
  waited := ran.state.timer.waited

/-- The port that a transport's adapter listens on.  Vectors need none, and have the console's. -/
def defaultPort : TransportKind → Nat
  | .console => Endpoint.consolePort
  | .tcl => Endpoint.tclPort
  | .svf => Endpoint.consolePort

/-- The settings of the session that a command line asks for. -/
def configOf (i : Invocation) : SessionConfig :=
  .ofChoices i.choices (defaultPort i.transport)

/-- Do what a command line asks for. -/
def carryOut [ByteStream σ] (s : Surroundings σ) (i : Invocation) : Ending :=
  let timer : Timer := { clock := s.clock }
  let config := configOf i
  match i.transport with
  | .console =>
    let ran := onConsole i.subcommand (.fresh (Console.forConfig config s.dial) config timer)
    ending ran (sentOver ran.state.transport.link) []
  | .tcl =>
    let ran := onTcl i.subcommand (.fresh (TclServer.forConfig config s.dial) config timer)
    ending ran (sentOver ran.state.transport.link) []
  | .svf =>
    let ran := onVectors i.subcommand (.fresh (VectorEmitter.forConfig config s.disk) config timer)
    ending ran none ran.state.transport.disk.written

/-- Run the program.  Completions are made without a session. -/
def run [ByteStream σ] (s : Surroundings σ) (arguments : List String) : Ending :=
  match Invocation.ofArguments arguments with
  | .error e => { failure := some (.usage e) }
  | .ok i =>
    match i.subcommand with
    | .complete _ => { failure := none }
    | _ => carryOut s i

end Program

end HartDebug
