import HartDebug.Transport

/-!
# A scripted bus

A bus that answers from a script, whatever is done to it.  Every register has its own list of answers;
each access takes the next one, and the last one is given again and again.

* `ScriptedAnswer` — a value, or a failure with a text;
* `ScriptedBus` — the scripts, as far as they have not been used.
-/

namespace HartDebug

/-- One answer of a script. -/
inductive ScriptedAnswer where
  | value (w : Word)
  | failure (text : String)
  deriving DecidableEq, Repr

namespace ScriptedAnswer

/-- The next answer of a script, and the script after it.  An empty script answers zero. -/
def next : List ScriptedAnswer → ScriptedAnswer × List ScriptedAnswer
  | [] => (.value 0, [])
  | [last] => (last, [last])
  | answer :: rest => (answer, rest)

/-- What an answer makes of an access. -/
def outcome : ScriptedAnswer → Except DebugError Word
  | .value w => .ok w
  | .failure text => .error (.adapterFailure text)

end ScriptedAnswer

/-- A bus that answers from scripts. -/
structure ScriptedBus where
  live : Bool := true
  reads : List (BusAddress × List ScriptedAnswer) := []
  /-- Of the answers to writes only the failures matter. -/
  writes : List (BusAddress × List ScriptedAnswer) := []
  dtmcs : List ScriptedAnswer := []
  idcode : List ScriptedAnswer := []
  deriving DecidableEq, Repr

namespace ScriptedBus

/-- The next answer for an address, and the scripts after it. -/
def nextAt (address : BusAddress) :
    List (BusAddress × List ScriptedAnswer) →
      ScriptedAnswer × List (BusAddress × List ScriptedAnswer)
  | [] => (.value 0, [])
  | (a, script) :: rest =>
    if a = address then
      let (answer, after) := ScriptedAnswer.next script
      (answer, (a, after) :: rest)
    else
      let (answer, after) := nextAt address rest
      (answer, (a, script) :: after)

instance : Transport ScriptedBus where
  isLive b := b.live
  connect := pure ()
  disconnect := pure ()
  write address _ := do
    let (answer, writes) := nextAt address (← get).writes
    modify fun b => { b with writes := writes }
    discard (Action.ofExcept answer.outcome)
  read address := do
    let (answer, reads) := nextAt address (← get).reads
    modify fun b => { b with reads := reads }
    Action.ofExcept answer.outcome
  writeDtmcs _ := pure ()
  readDtmcs := do
    let (answer, dtmcs) := ScriptedAnswer.next (← get).dtmcs
    modify fun b => { b with dtmcs := dtmcs }
    Action.ofExcept answer.outcome
  readIdcode := do
    let (answer, idcode) := ScriptedAnswer.next (← get).idcode
    modify fun b => { b with idcode := idcode }
    Action.ofExcept answer.outcome
  resetTap := pure ()

end ScriptedBus

end HartDebug
