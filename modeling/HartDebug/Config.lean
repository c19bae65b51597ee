import HartDebug.Duration
import HartDebug.TransferWidth

/-!
# Session settings

Where an adapter is found, and the settings of a session.  A setting that nobody chose keeps its
default or is learned from the target.

* `Endpoint` — host and port of an adapter;
* `SessionConfig` — the settings, with their defaults;
* `SessionChoices` — what somebody has chosen;
* `SessionConfig.ofChoices` — the settings that follow from the choices.
-/

namespace HartDebug

/-- Where an adapter is found. -/
structure Endpoint where
  host : String
  port : Nat
  deriving DecidableEq, Repr

namespace Endpoint

/-- The well-known port of the adapter's console. -/
def consolePort : Nat := 4444

/-- The well-known port of the adapter's Tcl server. -/
def tclPort : Nat := 6666

/-- A port of this host. -/
def loopback (port : Nat) : Endpoint :=
  ⟨"127.0.0.1", port⟩

def text (e : Endpoint) : String :=
  s!"{e.host}:{e.port}"

end Endpoint

/-- The settings of a session. -/
structure SessionConfig where
  /-- The adapter to talk to; none stands for the transport's well-known port on this host. -/
  endpoint : Option Endpoint := none
  /-- The file to which recorded vectors are written in the end. -/
  vectorOutput : Option String := none
  /-- The transfer width to use instead of the width of the hart's registers. -/
  width : Option TransferWidth := none
  /-- The port that raw scans are directed at as long as none has been discovered. -/
  tapName : String := "riscv.cpu"
  /-- How long to wait between two looks at a busy abstract command. -/
  pollInterval : Duration := .ofMillis 50
  /-- How long an abstract command may stay busy. -/
  busyTimeout : Duration := .ofSeconds 2
  /-- How long to wait for an answer of the adapter. -/
  ioTimeout : Option Duration := some (.ofSeconds 5)
  /-- The size of the program buffer in words, where it is known beforehand. -/
  progbufCapacity : Option Nat := none
  /-- The clock cycles recorded for an abstract command to finish in. -/
  settleCycles : Nat := 10
  deriving DecidableEq, Repr

/-- What somebody has chosen of a session's settings. -/
structure SessionChoices where
  host : Option String := none
  port : Option Nat := none
  vectorOutput : Option String := none
  width : Option TransferWidth := none
  tapName : Option String := none
  busyTimeout : Option Duration := none
  progbufCapacity : Option Nat := none
  deriving DecidableEq, Repr

namespace SessionConfig

/-- The settings that follow from choices, for a transport with a well-known port.  Choosing a host or
a port fixes the endpoint; the other part of it keeps its default. -/
def ofChoices (c : SessionChoices) (defaultPort : Nat) : SessionConfig :=
  let defaults : SessionConfig := {}
  { defaults with
    endpoint :=
      if c.host.isSome || c.port.isSome then
        some ⟨c.host.getD (Endpoint.loopback defaultPort).host, c.port.getD defaultPort⟩
      else none
    vectorOutput := c.vectorOutput
    width := c.width
    tapName := c.tapName.getD defaults.tapName
    busyTimeout := c.busyTimeout.getD defaults.busyTimeout
    progbufCapacity := c.progbufCapacity }

/-- The endpoint for a transport with a well-known port. -/
def endpointOr (c : SessionConfig) (defaultPort : Nat) : Endpoint :=
  c.endpoint.getD (.loopback defaultPort)

end SessionConfig

end HartDebug
