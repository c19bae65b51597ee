import HartDebug.CommandLine.Program
import HartDebug.Log.Filter
import HartDebug.Wire.PartialStream
import Std.Async.DNS
import Std.Async.TCP
import Std.Async.Timer

/-!
# The command line

The program as it is run from a shell.  What it does is a function of what it meets
(`Program.run`), and here it meets the world: the function is applied to what is known so far, what it
wants to send is sent, and where it waits for an answer the answer is fetched and the function applied
again.  Nothing is shown before the last application, which waits for nothing.
-/

namespace HartDebug.Terminal

open Std.Async Std.Net

/-- The number of a failure of the system, as it was reported. -/
def reportedNumber? : IO.Error → Option UInt32
  | .alreadyExists _ n _ | .otherError n _ | .resourceBusy n _ | .resourceVanished n _
  | .unsupportedOperation n _ | .hardwareFault n _ | .unsatisfiedConstraints n _
  | .illegalOperation n _ | .protocolError n _ | .timeExpired n _ | .interrupted _ n _
  | .noFileOrDirectory _ n _ | .invalidArgument _ n _ | .permissionDenied _ n _
  | .resourceExhausted _ n _ | .inappropriateType _ n _ | .noSuchThing _ n _ => some n
  | .unexpectedEof => none
  | .userError _ => none

/-- The number of a failure of the system.  Failures of the network are reported with negated numbers. -/
def errorNumber? (e : IO.Error) : Option UInt32 :=
  (reportedNumber? e).map fun n => if 0x80000000 ≤ n then 0 - n else n

/-- What the system calls its failures. -/
def wordings : List (UInt32 × String) :=
  [(2, "No such file or directory"), (11, "Resource temporarily unavailable"),
   (13, "Permission denied"), (20, "Not a directory"), (21, "Is a directory"),
   (28, "No space left on device"), (30, "Read-only file system"), (32, "Broken pipe"), (101, "Network is unreachable"),
   (104, "Connection reset by peer"), (110, "Connection timed out"), (111, "Connection refused"),
   (113, "No route to host")]

/-- A failure of the system, in its own words where they are known. -/
def faultOf (e : IO.Error) : StreamFault :=
  match errorNumber? e with
  | none => .reported (toString e)
  | some n =>
    match wordings.lookup n with
    | none => .reported (toString e)
    | some wording => .reported s!"{wording} (os error {n})"

/-- What is known of the world from earlier applications. -/
structure Known where
  /-- The connection to the adapter and what has come over it. -/
  stream : Except StreamFault ScriptedStream := .error .pending
  /-- How many octets have been sent over it. -/
  sent : Nat := 0
  /-- What the clock has shown, without the time spent waiting. -/
  readings : List Nat := []
  /-- How many nanoseconds have been spent waiting. -/
  waited : Nat := 0
  /-- The files that could not be written. -/
  refused : List (String × StreamFault) := []

namespace Known

/-- What the program meets at an instant. -/
def surroundings (k : Known) (now : Nat) : Surroundings PartialStream where
  dial _ := k.stream.map fun s => { begun := s }
  clock := .recorded (k.readings ++ [now])
  disk := { refuses := fun path => k.refused.lookup path }

/-- What is known after a piece has come from the adapter. -/
def received (k : Known) (p : Piece) : Known :=
  { k with stream := k.stream.map fun s => { s with incoming := s.incoming ++ [p] } }

/-- What is known after octets could not be sent. -/
def broken (k : Known) (fault : StreamFault) : Known :=
  { k with stream := k.stream.map fun s => { s with room := some k.sent, whenFull := fault } }

end Known

/-- Connect to an adapter, at the first of its addresses that can be reached. -/
def connect (e : Endpoint) : Async TCP.Socket.Client := do
  let addresses ← DNS.getAddrInfo e.host (toString e.port)
  let mut failure := IO.userError "could not resolve to any addresses"
  for address in addresses do
    let port := UInt16.ofNat e.port
    let address : SocketAddress := match address with
      | .v4 a => .v4 ⟨a, port⟩
      | .v6 a => .v6 ⟨a, port⟩
    try
      let client ← TCP.Socket.Client.mk
      client.connect address
      client.noDelay
      return client
    catch e =>
      failure := e
  throw failure

/-- The next octets from the adapter, unless none come in time. -/
def receive (client : TCP.Socket.Client) (timeout : Duration) : Async Piece := do
  let timer ← Sleep.mk (.ofNat (timeout.nanoseconds / 1000000))
  Selectable.one #[
    .case (client.recvSelector 4096) fun bytes? =>
      pure (.octets ((bytes?.map fun bytes => bytes.toList).getD [])),
    .case timer.selector fun _ =>
      pure (.failure "Resource temporarily unavailable (os error 11)")]

/-- Write files, up to the first that cannot be written. -/
def writeFiles : List (String × String) → IO (Option (String × StreamFault))
  | [] => pure none
  | (path, contents) :: rest => do
    match ← (IO.FS.writeFile path contents).toBaseIO with
    | .error e => pure (some (path, faultOf e))
    | .ok () => writeFiles rest

/-- What has to be found out before the program can be applied again. -/
inductive Finding where
  | connected (client : TCP.Socket.Client) (k : Known)
  | learned (k : Known)
  | finished

/-- Send what the program has sent since the last application. -/
def sendOn (client : TCP.Socket.Client) (k : Known) (ending : Ending) : IO (Except Known Known) := do
  let bytes := (ending.sent.getD []).drop k.sent
  if bytes.isEmpty then
    return .ok k
  match ← (client.send ⟨bytes.toArray⟩).block.toBaseIO with
  | .error e => return .error (k.broken (faultOf e))
  | .ok () => return .ok { k with sent := k.sent + bytes.length }

/-- Find out what the program waits for, or do what it leaves to be done in the end. -/
def follow (config : SessionConfig) (endpoint : Endpoint) (client? : Option TCP.Socket.Client)
    (k : Known) (ending : Ending) : IO Finding := do
  match client? with
  | some client =>
    match ← sendOn client k ending with
    | .error k => return .learned k
    | .ok k =>
      if ending.awaitsAnswer then
        match ← (receive client (config.ioTimeout.getD (.ofSeconds 5))).block.toBaseIO with
        | .error e => return .learned (k.received (.failure (faultOf e).message))
        | .ok piece => return .learned (k.received piece)
      else
        return .finished
  | none =>
    if ending.awaitsAnswer then
      match ← (connect endpoint).block.toBaseIO with
      | .error e => return .learned { k with stream := .error (faultOf e) }
      | .ok client => return .connected client { k with stream := .ok {} }
    else
      match ← writeFiles ending.files with
      | some refusal => return .learned { k with refused := refusal :: k.refused }
      | none => return .finished

/-- Apply the program until it waits for nothing. -/
partial def settle (arguments : List String) (config : SessionConfig) (endpoint : Endpoint)
    (client? : Option TCP.Socket.Client) (k : Known) : IO Ending := do
  let now := (← IO.monoNanosNow) - k.waited
  let ending := Program.run (k.surroundings now) arguments
  IO.sleep (UInt32.ofNat ((ending.waited - k.waited) / 1000000))
  let looks := List.replicate (ending.looks - k.readings.length) now
  let k := { k with readings := k.readings ++ looks, waited := ending.waited }
  match ← follow config endpoint client? k ending with
  | .connected client k => settle arguments config endpoint (some client) k
  | .learned k => settle arguments config endpoint client? k
  | .finished => return ending

/-- Why a command line was not taken, in words. -/
def wordingOf : UsageError → String
  | .valueValidation reason => "invalid value: " ++ reason
  | .invalidValue => "a value is missing, or is not one of the possible values"
  | .unknownArgument => "unexpected argument"
  | .invalidSubcommand => "unrecognized subcommand"
  | .missingSubcommand => "a subcommand is required"
  | .missingRequiredArgument => "a required argument is missing"
  | .argumentConflict => "an argument cannot be used multiple times"
  | .tooManyValues => "a value was given to an argument that takes none"
  | .displayHelp => "the commands are"
  | .displayVersion => "hart-debug 0.1.0"
  | .displayHelpOnMissing => "the commands are"

/-- What a refused command line is answered. -/
def usageText (e : UsageError) : String :=
  let verbs := String.intercalate " " (Verb.all.map (·.name))
  let options := String.intercalate " " (Argument.anywhere.map fun a => "--" ++ a.longName)
  s!"{wordingOf e}\n\nusage: hart-debug [options] command\n  commands: {verbs}\n  options: {options}"

/-- Show what a run has said, each in its place. -/
def showSaid (filter : Log.Filter) (said : List Utterance) : IO Unit := do
  let naming : Log.Naming := ⟨"hart_debug", "hart_debug_cli"⟩
  for u in said do
    match u with
    | .print text => IO.print text
    | .log m =>
      if filter.shows naming m then
        IO.eprintln s!"[{m.level.name} {naming.path m.source}] {m.text}"

/-- Show why a run has failed. -/
def showFailure : Failure → IO Unit
  | .usage e => if e.exitCode = 0 then IO.println (usageText e) else IO.eprintln (usageText e)
  | .report r => do
    IO.eprintln "hart-debug failed:"
    for text in r.chain do
      IO.eprintln ("  " ++ text)

end HartDebug.Terminal

open HartDebug in
/-- Run the program.  `HART_DEBUG_LOG` chooses what is shown of the log. -/
def main (arguments : List String) : IO UInt32 := do
  let filter := match ← IO.getEnv "HART_DEBUG_LOG" with
    | none => Log.Filter.standard
    | some spec => Log.Filter.ofSpec spec
  let (config, port) := match Invocation.ofArguments arguments with
    | .ok i => (Program.configOf i, Program.defaultPort i.transport)
    | .error _ => ({}, Endpoint.consolePort)
  let ending ← Terminal.settle arguments config (config.endpointOr port) none {}
  Terminal.showSaid filter ending.said
  ending.failure.forM Terminal.showFailure
  return UInt32.ofNat ending.exitCode
