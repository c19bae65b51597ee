import HartDebug.CommandLine.Reader
import HartDebug.CommandLine.Report
import HartDebug.Session.ProgramBuffer
import HartDebug.Session.RunControl

/-!
# The commands

What each subcommand does on a session, and what it prints.
-/

namespace HartDebug.Subcommand

variable {τ : Type} [Transport τ]

/-- A truth value in words, yes in green and no in red. -/
def flagText (b : Bool) : String :=
  if b then "\x1b[32myes\x1b[39m" else "\x1b[31mno\x1b[39m"

def runStatus : Action Report (Session τ) Unit := do
  let status ← Report.of Session.hartStatus
  Action.printLine "Core status:"
  Action.printLine ("  Running:    " ++ flagText status.running)
  Action.printLine ("  Halted:     " ++ flagText status.halted)
  Action.printLine ("  Resume ack: " ++ flagText status.resumeAcknowledged)
  Action.printLine ("  Have reset: " ++ flagText status.haveReset)

/-- Reset the hart.  A request to halt it on reset is taken back also when the reset fails, so that it
does not meet whoever resets the hart next. -/
def runReset (halting : Bool) : Action Report (Session τ) Unit := do
  if halting then
    Report.of Session.setHaltOnReset
  let outcome ← Action.attempt (Report.of Session.resetHart)
  if halting then
    Report.of Session.clearHaltOnReset
  Action.ofExcept outcome

def runRead (register : String) : Action Report (Session τ) Unit := do
  let value ← Report.during s!"reading {register}" (Session.readRegister register none)
  Action.printLine s!"{register} = {Hex.text value.toNat}"

def runWrite (register : String) (value : Value) : Action Report (Session τ) Unit := do
  Report.during s!"writing {register}" (Session.writeRegister register value none)
  Action.log .info .registerCommand s!"Wrote {Hex.text value.toNat} to {register}"

def runExpect (register : String) (value : Value) : Action Report (Session τ) Unit :=
  Report.during s!"checking {register}" (Session.expectRegister register value none)

/-- A register of a dump as an object of a document. -/
def jsonEntry (entry : String × Option Value) : String :=
  let value := match entry.2 with
    | some value => "\"" ++ Hex.text value.toNat ++ "\""
    | none => "null"
  "  \x7b\n    \"register\": \"" ++ entry.1 ++ "\",\n    \"value\": " ++ value ++ "\n  \x7d"

/-- A dump as a document. -/
def jsonText (dump : List (String × Option Value)) : String :=
  if dump.isEmpty then "[]" else "[\n" ++ ",\n".intercalate (dump.map jsonEntry) ++ "\n]"

/-- A text with blanks before it, up to a length. -/
def alignRight (length : Nat) (text : String) : String :=
  String.ofList (List.replicate (length - text.length) ' ') ++ text

/-- A register of a dump as a line. -/
def dumpLine (digits : Nat) (entry : String × Option Value) : String :=
  alignRight 4 entry.1 ++ ": " ++
    match entry.2 with
    | some value => Hex.padded digits value.toNat
    | none => "unavailable"

def runDump (float json : Bool) : Action Report (Session τ) Unit := do
  let group := if float then RegisterGroup.float else RegisterGroup.integer
  let dump ← Report.of (Session.dumpRegisters group none)
  if json then
    Action.printLine (jsonText dump)
  else
    let digits := (← get).width.bits / 4
    dump.forM fun entry => Action.printLine (dumpLine digits entry)

def runExec (discover : Bool) (instructions : List Word) : Action Report (Session τ) Unit := do
  if discover then
    let capacity ← Report.of Session.discoverProgbufSize
    Action.log .info .moduleCommand s!"Program buffer holds {capacity} words"
  Report.of (Session.loadProgram instructions)
  Report.of Session.executeProgram

def runDiagnose : Action Report (Session τ) Unit := do
  match ← Report.of Session.diagnose with
  | some fault => Action.log .warn .moduleCommand fault.text
  | none => Action.log .info .moduleCommand "No faults found"

def runIdcode (expected : Option Word) : Action Report (Session τ) Unit := do
  match expected with
  | some expected => Report.of (Session.expectIdcode expected)
  | none =>
    let idcode ← Report.of Session.readIdcode
    Action.printLine (Hex.padded 8 idcode.toNat)

/-- Do what a subcommand asks for.  Completions need no session, and nothing is left to do for them. -/
def run : Subcommand → Action Report (Session τ) Unit
  | .status => runStatus
  | .halt => Report.of Session.halt
  | .resume => Report.of Session.resume
  | .step => Report.of Session.step
  | .reset halting => runReset halting
  | .read register => runRead register
  | .write register value => runWrite register value
  | .expect register value => runExpect register value
  | .dump float json => runDump float json
  | .exec discover instructions => runExec discover instructions
  | .diagnose => runDiagnose
  | .dmReset => Report.of Session.resetDm
  | .dtmReset hard => Report.of (if hard then Session.hardResetDtm else Session.resetStickyError)
  | .idcode expected => runIdcode expected
  | .complete _ => pure ()

end HartDebug.Subcommand
