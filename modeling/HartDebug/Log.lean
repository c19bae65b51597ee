/-!
# The log

What a run has to say: messages of five levels from named parts of the program, and lines for its
standard output.  A run only lists them; what is shown of the messages is for a filter to choose
(`HartDebug.Log.Filter`).
-/

namespace HartDebug

/-- How much a message matters. -/
inductive Level where
  | error
  | warn
  | info
  | debug
  | trace
  deriving DecidableEq, Repr

namespace Level

/-- Levels in order of importance: a higher rank is a finer detail. -/
def rank : Level → Nat
  | .error => 1
  | .warn => 2
  | .info => 3
  | .debug => 4
  | .trace => 5

def name : Level → String
  | .error => "ERROR"
  | .warn => "WARN"
  | .info => "INFO"
  | .debug => "DEBUG"
  | .trace => "TRACE"

end Level

/-- The part of the program that a message comes from. -/
inductive Source where
  | session
  | bus
  | abstractCommand
  | runControl
  | interrogation
  | programBuffer
  | connection
  | console
  | tcl
  | vectors
  | program
  | registerCommand
  | moduleCommand
  deriving DecidableEq, Repr

namespace Source

/-- The part belongs to the command line rather than to the debugger below it. -/
def isCommandLine : Source → Bool
  | .program => true
  | .registerCommand => true
  | .moduleCommand => true
  | _ => false

/-- The names that lead to a part, below the name of the debugger or of its command line.  A filter
addresses a part, or all parts below a name, by the beginning of this path. -/
def path : Source → List String
  | .session => ["session"]
  | .bus => ["debug", "dmi"]
  | .abstractCommand => ["debug", "abstract_command"]
  | .runControl => ["debug", "hart"]
  | .interrogation => ["debug", "interrogate"]
  | .programBuffer => ["debug", "progbuf"]
  | .connection => ["transport"]
  | .console => ["transport", "console"]
  | .tcl => ["transport", "tcl"]
  | .vectors => ["transport", "svf"]
  | .program => []
  | .registerCommand => ["cli_commands", "register"]
  | .moduleCommand => ["cli_commands", "debug_module"]

end Source

/-- A message of the log. -/
structure Message where
  level : Level
  source : Source
  text : String
  deriving DecidableEq, Repr

/-- Something that a run has to say. -/
inductive Utterance where
  /-- A message for the log. -/
  | log (message : Message)
  /-- Text for the standard output. -/
  | print (text : String)
  deriving DecidableEq, Repr

namespace Utterance

/-- The messages among what was said. -/
def messages (said : List Utterance) : List Message :=
  said.filterMap fun
    | .log m => some m
    | .print _ => none

/-- The text printed by what was said. -/
def printed (said : List Utterance) : String :=
  String.join <| said.filterMap fun
    | .log _ => none
    | .print t => some t

end Utterance

end HartDebug
