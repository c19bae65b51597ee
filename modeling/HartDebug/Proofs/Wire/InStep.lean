import HartDebug.Proofs.Wire.Delivery
import HartDebug.Transport.Call

/-!
# Commands and replies in step

Over a stream that delivers, every call on a session with an adapter takes exactly the replies to the commands
that it sends, one reply for each.  That does not depend on what the calls before it have returned: a call
that fails has failed because of what stands in its reply, and has read all of that.

* `WireCall` — what can be asked of a session: a command, or an access to the debug transport;
* `WireCall.exchanges`, `Service.outcome` — the commands that a call sends, and what it returns;
* `Service.Turn` — a call and its replies;
* `Service.Serves` — a session whose commands are exchanges;
* `Serves.yields_access`, `Serves.yields_perform`, `Serves.yields_performEach` — **one access, one call, and
  one call after another**;
* `exchanges_in_step` — **commands and replies stay in step** on both services.
-/

namespace HartDebug

open Action (Yields)

/-! ## Calls -/

/-- What can be asked of a session with an adapter. -/
inductive WireCall where
  | command (exchange : Exchange)
  | access (call : TransportCall)
  deriving DecidableEq, Repr

namespace WireCall

/-- What a call answers. -/
inductive Answer where
  | text (text : String)
  | access (answer : TransportCall.Answer)
  deriving DecidableEq, Repr

/-- The call opens no connection and closes none. -/
def StaysOpen (call : WireCall) : Prop :=
  call ≠ .access .connect ∧ call ≠ .access .disconnect
  deriving Decidable

/-- The commands that shift a word through the data register of an instruction. -/
def scanned (tap : String) (i : Instruction) (value : Word) : List Exchange :=
  [.plain (i.selectCommand tap), .printed (i.shiftCommand tap value)]

/-- The commands that a call sends. -/
def exchanges (tap : String) : WireCall → List Exchange
  | .command exchange => [exchange]
  | .access (.write address data) =>
    [.printed s!"riscv dmi_write {Hex.text address.toNat} {Hex.text data.toNat}"]
  | .access (.read address) => [.printed s!"riscv dmi_read {Hex.text address.toNat}"]
  | .access (.expect address _ _) => [.printed s!"riscv dmi_read {Hex.text address.toNat}"]
  | .access (.writeDtmcs value) => scanned tap .dtmcs value
  | .access .readDtmcs => scanned tap .dtmcs 0
  | .access .readIdcode => scanned tap .idcode 0
  | .access (.expectIdcode _) => scanned tap .idcode 0
  | .access .resetTap => [.plain "pathmove RESET IDLE"]
  | .access .connect => []
  | .access .disconnect => []
  | .access (.idle _) => []
  | .access (.annotate _) => []

section

variable {τ : Type} [Transport τ] (run : Exchange → Action DebugError τ String)

/-- Make the call on a session that runs commands in such a way. -/
def perform : WireCall → Action DebugError τ Answer
  | .command exchange => .text <$> run exchange
  | .access call => .access <$> call.perform

/-- Make calls one after another, each with its outcome; a failure does not end them. -/
def performEach : List WireCall → Action DebugError τ (List (Except DebugError Answer))
  | [] => pure []
  | call :: rest => do
    let outcome ← (call.perform run).attempt
    let outcomes ← performEach rest
    pure (outcome :: outcomes)

end

end WireCall

/-- Run a command on the console, with its reply in lines or on one line. -/
def Console.run {σ : Type} [ByteStream σ] : Exchange → Action DebugError (Console σ) String
  | .plain command => executeLines command
  | .printed command => execute command

/-- Run a command on the Tcl server. -/
def TclServer.run {σ : Type} [ByteStream σ] : Exchange → Action DebugError (TclServer σ) String
  | .plain command => send command
  | .printed command => capture command

/-! ## Sessions -/

namespace Service

variable {service : Service} {τ : Type}

/-- The text that a command is answered with. -/
def answerText (service : Service) (body : List Byte) : Exchange → String
  | .plain _ => service.text body
  | .printed _ => service.wording body

/-- What becomes of an answer to which nothing is expected. -/
def acknowledged (service : Service) (body : List Byte) : Except DebugError Unit :=
  if Reply.failed (service.wording body) then .error (.adapterFailure (service.wording body)) else .ok ()

/-- What an access returns, by what stands in the reply to its last command. -/
def accessed (service : Service) (body : List Byte) : TransportCall → Except DebugError TransportCall.Answer
  | .write _ _ => (service.acknowledged body).map fun _ => .done
  | .read _ => (service.value body).map .word
  | .expect _ expected mask => ((service.value body).map fun actual =>
    if actual &&& mask = expected &&& mask then Check.passed else .failed actual).map .check
  | .readDtmcs => (Reply.word (service.wording body)).map .word
  | .readIdcode => (Reply.word (service.wording body)).map .word
  | .expectIdcode expected => ((Reply.word (service.wording body)).map fun actual =>
    if actual = expected then Check.passed else .failed actual).map .check
  | _ => .ok .done

/-- What a call returns, by what stands in the reply to its last command. -/
def outcome (service : Service) (body : List Byte) : WireCall → Except DebugError WireCall.Answer
  | .command exchange => .ok (.text (service.answerText body exchange))
  | .access call => (service.accessed body call).map .access

/-- What stands in the last of some replies. -/
def lastBody (replies : List service.WholeReply) : List Byte :=
  (replies.map (·.body)).getLastD []

/-- A call, and a reply to each of the commands that it sends. -/
structure Turn (service : Service) (tap : String) where
  call : WireCall
  replies : List service.WholeReply
  stays_open : call.StaysOpen
  each : replies.length = (call.exchanges tap).length

namespace Turn

variable {tap : String}

/-- What is sent in the turn. -/
def lines (turn : service.Turn tap) : List Byte :=
  (turn.call.exchanges tap).flatMap service.line

/-- What is read in the turn. -/
def octets (turn : service.Turn tap) : List Byte :=
  octetsOf turn.replies

/-- What the call returns. -/
def outcome (turn : service.Turn tap) : Except DebugError WireCall.Answer :=
  service.outcome (lastBody turn.replies) turn.call

end Turn

/-- Commands and replies stay in step: after any number of turns each call has returned what stands in its
own replies, what was sent are the commands of these turns in their order, and what is left to be read are the
replies of all further turns and whatever comes after them. -/
def StaysInStep [Transport τ] (service : Service) (stands : List Byte → List Byte → τ → Prop)
    (tap : String) (run : Exchange → Action DebugError τ String) : Prop :=
  ∀ (turns : List (service.Turn tap)) (sent rest : List Byte) (k : Nat),
    Yields (stands sent (turns.flatMap (·.octets) ++ rest))
      (WireCall.performEach run ((turns.take k).map (·.call))) (.ok ((turns.take k).map (·.outcome)))
      (stands (sent ++ (turns.take k).flatMap (·.lines)) ((turns.drop k).flatMap (·.octets) ++ rest))

/-- A session whose commands are exchanges, and whose accesses are made of commands: `stands` tells what was
sent and what is left to be read, and a command to select an instruction is run in a way of its own. -/
structure Serves [Transport τ] (service : Service) (stands : List Byte → List Byte → τ → Prop)
    (tap : String) (tapName : τ → String) (run : Exchange → Action DebugError τ String)
    (select : String → Action DebugError τ String) (source : Source) : Prop where
  named : ∀ {sent unread t}, stands sent unread t → tapName t = tap
  runs : ∀ exchange {sent unread body rest}, service.body? unread = some (body, rest) →
    Yields (stands sent unread) (run exchange) (.ok (service.answerText body exchange))
      (stands (sent ++ service.line exchange) rest)
  selects : ∀ command {sent unread body rest}, service.body? unread = some (body, rest) → ∃ text,
    Yields (stands sent unread) (select command) (.ok text)
      (stands (sent ++ service.line (.plain command)) rest)
  write_eq : ∀ address data, (Bus.write address data : Action DebugError τ Unit) = do
    let answer ← run (.printed s!"riscv dmi_write {Hex.text address.toNat} {Hex.text data.toNat}")
    discard (Reply.unlessFailed source answer)
  read_eq : ∀ address, (Bus.read address : Action DebugError τ Word) = do
    let answer ← run (.printed s!"riscv dmi_read {Hex.text address.toNat}")
    let answer ← Reply.unlessFailed source answer
    Action.ofExcept (Reply.word answer)
  writeDtmcs_eq : ∀ value, (Bus.writeDtmcs value : Action DebugError τ Unit) =
    discard (Runs.scan select (fun command => run (.printed command)) tapName .dtmcs value)
  readDtmcs_eq : (Bus.readDtmcs : Action DebugError τ Word) = do
    let answer ← Runs.scan select (fun command => run (.printed command)) tapName .dtmcs 0
    Action.ofExcept (Reply.word answer)
  readIdcode_eq : (Bus.readIdcode : Action DebugError τ Word) = do
    let answer ← Runs.scan select (fun command => run (.printed command)) tapName .idcode 0
    Action.ofExcept (Reply.word answer)
  resetTap_eq : (Bus.resetTap : Action DebugError τ Unit) = discard (select "pathmove RESET IDLE")
  idle_eq : ∀ cycles, (Transport.idle cycles : Action DebugError τ Unit) = pure ()
  annotate_eq : ∀ note, (Transport.annotate note : Action DebugError τ Unit) =
    Action.log .debug .connection note

/-- A reply that says that something failed becomes a failure. -/
theorem exec_acknowledged (source : Source) (text : String) (t : τ) :
    (discard (Reply.unlessFailed source text) : Action DebugError τ Unit).exec t =
      (if Reply.failed text then .error (.adapterFailure text) else .ok (), t) := by
  cases failed : Reply.failed text with
  | false => exact Action.exec_discard_ok (Reply.exec_unlessFailed failed source t)
  | true =>
    rw [Reply.unlessFailed, failed]
    rfl

theorem yields_unlessFailed (pre : τ → Prop) (source : Source) (body : List Byte) :
    Yields pre (discard (Reply.unlessFailed source (service.wording body)) : Action DebugError τ Unit)
      (service.acknowledged body) pre :=
  .of_exec fun t => exec_acknowledged source (service.wording body) t

/-- A value that was got is compared. -/
theorem yields_compared {x : Action DebugError τ Word} {pre after : τ → Prop}
    {outcome : Except DebugError Word} (h : Yields pre x outcome after) (fits : Word → Prop)
    [DecidablePred fits] :
    Yields pre (do
        let actual ← x
        if fits actual then pure .passed else pure (.failed actual))
      (outcome.map fun actual => if fits actual then Check.passed else .failed actual) after := by
  simp only [← apply_ite pure]
  exact h.map _

namespace Serves

variable [Transport τ] {stands : List Byte → List Byte → τ → Prop} {tap : String}
  {tapName : τ → String} {run : Exchange → Action DebugError τ String}
  {select : String → Action DebugError τ String} {source : Source}
  (serves : service.Serves stands tap tapName run select source)

include serves

/-- A command takes one reply. -/
theorem yields_run (exchange : Exchange) (reply : service.WholeReply) (sent rest : List Byte) :
    Yields (stands sent (octetsOf [reply] ++ rest)) (run exchange)
      (.ok (service.answerText reply.body exchange))
      (stands (sent ++ [exchange].flatMap service.line) rest) := by
  rw [octetsOf, List.flatMap_singleton, List.flatMap_singleton]
  exact serves.runs exchange (reply.body?_append rest)

/-- A scan takes two replies, and what it returns is the second. -/
theorem yields_scan (i : Instruction) (value : Word) (first second : service.WholeReply)
    (sent rest : List Byte) :
    Yields (stands sent (octetsOf [first, second] ++ rest))
      (Runs.scan select (fun command => run (.printed command)) tapName i value)
      (.ok (service.wording second.body))
      (stands (sent ++ (WireCall.scanned tap i value).flatMap service.line) rest) := by
  intro t here
  rw [octetsOf, List.flatMap_cons, List.append_assoc] at here
  rw [Runs.scan, Action.exec_bind_ok (Action.exec_get t), serves.named here]
  obtain ⟨text, selected⟩ := serves.selects (i.selectCommand tap)
    (first.body?_append (octetsOf [second] ++ rest))
  have shifted := fun sent => serves.yields_run
    (.printed (i.shiftCommand tap value)) second sent rest
  rw [WireCall.scanned, List.flatMap_cons, ← List.append_assoc]
  exact ((selected.map fun _ => PUnit.unit).bind (shifted _)) t here

/-- What a scan has printed is read as a number. -/
theorem yields_scan_word (i : Instruction) (first second : service.WholeReply) (sent rest : List Byte) :
    Yields (stands sent (octetsOf [first, second] ++ rest))
      (do
        let answer ← Runs.scan select (fun command => run (.printed command)) tapName i 0
        Action.ofExcept (Reply.word answer))
      (Reply.word (service.wording second.body))
      (stands (sent ++ (WireCall.scanned tap i 0).flatMap service.line) rest) :=
  (serves.yields_scan i 0 first second sent rest).bind (.ofExcept _)

theorem yields_readIdcode (first second : service.WholeReply) (sent rest : List Byte) :
    Yields (stands sent (octetsOf [first, second] ++ rest)) Bus.readIdcode
      (Reply.word (service.wording second.body))
      (stands (sent ++ (WireCall.scanned tap .idcode 0).flatMap service.line) rest) := by
  rw [serves.readIdcode_eq]
  exact serves.yields_scan_word .idcode first second sent rest

/-- A read of the bus takes what stands before the next marker, whatever it is, and returns the value in it. -/
theorem yields_value {unread body rest : List Byte} (taken : service.body? unread = some (body, rest))
    (address : BusAddress) (sent : List Byte) :
    Yields (stands sent unread) (Bus.read address) (service.value body)
      (stands (sent ++ service.line (.printed s!"riscv dmi_read {Hex.text address.toNat}")) rest) := by
  rw [serves.read_eq]
  exact (serves.runs _ taken).bind (.of_exec fun t => exec_readingOf source (service.wording body) t)

/-- A read of the bus takes one reply, and returns the value in it. -/
theorem yields_read (address : BusAddress) (reply : service.WholeReply) (sent rest : List Byte) :
    Yields (stands sent (octetsOf [reply] ++ rest)) (Bus.read address) (service.value reply.body)
      (stands (sent ++ [.printed s!"riscv dmi_read {Hex.text address.toNat}"].flatMap service.line)
        rest) := by
  rw [octetsOf, List.flatMap_singleton, List.flatMap_singleton]
  exact serves.yields_value (reply.body?_append rest) address sent

/-- **An access** takes the replies to its commands, and returns what stands in the last of them. -/
theorem yields_access [ReadsBack τ] {call : TransportCall} (opens : call ≠ .connect)
    (closes : call ≠ .disconnect) {replies : List service.WholeReply}
    (each : replies.length = ((WireCall.access call).exchanges tap).length) (sent rest : List Byte) :
    Yields (stands sent (octetsOf replies ++ rest)) call.perform
      (service.accessed (lastBody replies) call)
      (stands (sent ++ ((WireCall.access call).exchanges tap).flatMap service.line) rest) := by
  cases call with
  | connect => exact absurd rfl opens
  | disconnect => exact absurd rfl closes
  | write address data =>
    obtain ⟨reply, rfl⟩ := List.length_eq_one_iff.1 each
    rw [TransportCall.perform, serves.write_eq]
    refine Yields.map _ (.bind (serves.yields_run _ reply sent rest) ?_)
    exact yields_unlessFailed _ source reply.body
  | read address =>
    obtain ⟨reply, rfl⟩ := List.length_eq_one_iff.1 each
    exact (serves.yields_read address reply sent rest).map _
  | expect address expected mask =>
    obtain ⟨reply, rfl⟩ := List.length_eq_one_iff.1 each
    rw [TransportCall.perform, ReadsBack.expect_eq]
    exact (yields_compared (serves.yields_read address reply sent rest) _).map _
  | writeDtmcs value =>
    obtain ⟨first, second, rfl⟩ := List.length_eq_two.1 each
    rw [TransportCall.perform, serves.writeDtmcs_eq]
    exact ((serves.yields_scan .dtmcs value first second sent rest).map _).map _
  | readDtmcs =>
    obtain ⟨first, second, rfl⟩ := List.length_eq_two.1 each
    rw [TransportCall.perform, serves.readDtmcs_eq]
    exact (serves.yields_scan_word .dtmcs first second sent rest).map _
  | readIdcode =>
    obtain ⟨first, second, rfl⟩ := List.length_eq_two.1 each
    exact (serves.yields_readIdcode first second sent rest).map _
  | expectIdcode expected =>
    obtain ⟨first, second, rfl⟩ := List.length_eq_two.1 each
    rw [TransportCall.perform, ReadsBack.expectIdcode_eq]
    exact (yields_compared (serves.yields_readIdcode first second sent rest) _).map _
  | resetTap =>
    obtain ⟨reply, rfl⟩ := List.length_eq_one_iff.1 each
    obtain ⟨text, reset⟩ := serves.selects "pathmove RESET IDLE" (reply.body?_append rest)
    rw [TransportCall.perform, serves.resetTap_eq, WireCall.exchanges, List.flatMap_singleton, octetsOf,
      List.flatMap_singleton]
    exact (reset.map _).map _
  | idle cycles =>
    obtain rfl := List.length_eq_zero_iff.1 each
    rw [TransportCall.perform, serves.idle_eq, WireCall.exchanges, List.flatMap_nil, List.append_nil]
    exact .of_exec fun _ => rfl
  | annotate note =>
    obtain rfl := List.length_eq_zero_iff.1 each
    rw [TransportCall.perform, serves.annotate_eq, WireCall.exchanges, List.flatMap_nil, List.append_nil]
    exact .of_exec fun _ => rfl

/-- **One call** takes the replies to its commands, and returns what stands in the last of them. -/
theorem yields_perform [ReadsBack τ] (turn : service.Turn tap) (sent rest : List Byte) :
    Yields (stands sent (turn.octets ++ rest)) (turn.call.perform run) turn.outcome
      (stands (sent ++ turn.lines) rest) := by
  obtain ⟨call, replies, ⟨opens, closes⟩, each⟩ := turn
  cases call with
  | command exchange =>
    obtain ⟨reply, rfl⟩ := List.length_eq_one_iff.1 each
    exact (serves.yields_run exchange reply sent rest).map _
  | access call =>
    have call_ne : ∀ {other}, WireCall.access call ≠ .access other → call ≠ other :=
      fun differ same => differ (congrArg WireCall.access same)
    exact (serves.yields_access (call_ne opens) (call_ne closes) each sent rest).map _

/-- **Calls one after another** take the replies of their turns, whatever each of them returns.  The induction
is on the turns. -/
theorem yields_performEach [ReadsBack τ] (turns : List (service.Turn tap)) (sent rest : List Byte) :
    Yields (stands sent (turns.flatMap (·.octets) ++ rest))
      (WireCall.performEach run (turns.map (·.call))) (.ok (turns.map (·.outcome)))
      (stands (sent ++ turns.flatMap (·.lines)) rest) := by
  induction turns generalizing sent with
  | nil =>
    rw [List.flatMap_nil, List.flatMap_nil, List.append_nil]
    exact .of_exec fun _ => rfl
  | cons turn turns ih =>
    have first := serves.yields_perform turn sent (turns.flatMap (·.octets) ++ rest)
    rw [List.flatMap_cons, List.flatMap_cons, List.append_assoc, ← List.append_assoc sent]
    exact first.attempt.bind ((ih (sent ++ turn.lines)).map _)

/-- **Such a session stays in step.** -/
theorem stays_in_step [ReadsBack τ] : service.StaysInStep stands tap run := by
  intro turns sent rest k
  have split : turns.flatMap (·.octets) ++ rest =
      (turns.take k).flatMap (·.octets) ++ ((turns.drop k).flatMap (·.octets) ++ rest) := by
    rw [← List.append_assoc, ← List.flatMap_append, List.take_append_drop]
  rw [split]
  exact serves.yields_performEach (turns.take k) sent _

end Serves

end Service

/-! ## The services -/

section

variable {σ : Type} [ByteStream σ] {holds : List Byte → σ → Prop}

theorem Console.serves (delivers : ByteStream.Delivers holds) (tap : String) :
    Service.console.Serves (Console.Stands holds tap) tap (·.link.tapName) Console.run
      Console.execute .console where
  named stands := stands.1
  runs exchange _ _ _ _ taken := by
    cases exchange with
    | plain command => exact Console.yields_executeLines delivers tap command taken
    | printed command => exact Console.yields_execute delivers tap command taken
  selects command _ _ _ _ taken := ⟨_, Console.yields_execute delivers tap command taken⟩
  write_eq _ _ := rfl
  read_eq _ := rfl
  writeDtmcs_eq _ := rfl
  readDtmcs_eq := rfl
  readIdcode_eq := rfl
  resetTap_eq := rfl
  idle_eq _ := rfl
  annotate_eq _ := rfl

theorem TclServer.serves (delivers : ByteStream.Delivers holds) (tap : String) :
    Service.tcl.Serves (TclServer.Stands holds tap) tap (·.link.tapName) TclServer.run
      TclServer.send .tcl where
  named stands := stands.1
  runs exchange _ _ _ _ taken := by
    cases exchange with
    | plain command => exact TclServer.yields_send delivers tap command taken
    | printed command =>
      rw [TclServer.run, Service.answerText]
      exact TclServer.yields_capture delivers tap command taken
  selects command _ _ _ _ taken := ⟨_, TclServer.yields_send delivers tap command taken⟩
  write_eq _ _ := rfl
  read_eq _ := rfl
  writeDtmcs_eq _ := rfl
  readDtmcs_eq := rfl
  readIdcode_eq := rfl
  resetTap_eq := rfl
  idle_eq _ := rfl
  annotate_eq _ := rfl

/-- **Commands and replies stay in step** on both services, over every stream that delivers, in whatever
pieces it brings the replies and takes the commands.  Calls of all kinds follow one another, of which any may
have failed, because a reply speaks of a failure or holds no number: the next call is answered by its own
reply all the same, and nothing beyond that is read. -/
theorem exchanges_in_step (delivers : ByteStream.Delivers holds) (tap : String) :
    Service.console.StaysInStep (Console.Stands holds tap) tap Console.run ∧
      Service.tcl.StaysInStep (TclServer.Stands holds tap) tap TclServer.run :=
  ⟨(Console.serves delivers tap).stays_in_step, (TclServer.serves delivers tap).stays_in_step⟩

end

/-- The octets of a text of plain characters. -/
def plainOctets (text : String) : List Byte :=
  text.toList.map Utf8.octet

/-- A write and a read that fail and a command, after the greeting and before another reply.  The pieces that
come are cut within replies and within what ends them, and an answer ends as the prompt begins. -/
theorem exchanges_in_step_past_failures :
    let script (pieces : List String) : ScriptedStream :=
      { incoming := pieces.map fun piece => .octets (plainOctets piece) }
    let calls : List WireCall :=
      [.access (.write .dmcontrol 1), .access (.read .dmstatus), .command (.plain "version")]
    let outcomes : List (Except DebugError WireCall.Answer) :=
      [.error (.adapterFailure "Failed"), .error (.protocol (.notHexadecimal "pending")),
        .ok (.text "0.12>")]
    let sent (service : Service) : List Byte :=
      calls.flatMap fun call => (call.exchanges "riscv.cpu").flatMap service.line
    let c := Console.ofStream (script ["Hello\r\n>", " write\r\nFail", "ed\r\n>", " read\r\npending\r",
      "\n> version\r\n0.12", ">", "> read\r\n0x382\r\n> "]) {} fun _ => .error .ended
    let t := TclServer.ofStream (script ["Failed\x1ape", "nding", "\x1a0.12>\n\x1a0x3", "82\x1a"]) {}
      fun _ => .error .ended
    ByteStream.Delivers ScriptedStream.Brings ∧
      (∃ c', (do
          Bus.connect
          WireCall.performEach Console.run calls : Action DebugError _ _).exec c = (.ok outcomes, c') ∧
        c'.Stands ScriptedStream.Brings "riscv.cpu" (sent .console) (plainOctets "read\r\n0x382\r\n> ")) ∧
      ∃ t', (WireCall.performEach TclServer.run calls).exec t = (.ok outcomes, t') ∧
        t'.Stands ScriptedStream.Brings "riscv.cpu" (sent .tcl) (plainOctets "0x382\x1a") := by
  intro script calls outcomes sent c t
  have in_step := exchanges_in_step ScriptedStream.delivers "riscv.cpu"
  refine ⟨ScriptedStream.delivers, ?_, ?_⟩
  · have apart : ∀ {answer : List Byte}, ¬ [0x3e, 0x20] <:+: answer → ¬ Console.prompt <:+: answer :=
      fun whole => Console.bytes_prompt ▸ whole
    let turns : List (Service.console.Turn "riscv.cpu") :=
      [⟨.access (.write .dmcontrol 1), [.lined (plainOctets "write\r") (plainOctets "Failed\r\n")
          (by decide) (by decide) (apart (by decide +kernel))], by decide, rfl⟩,
        ⟨.access (.read .dmstatus), [.lined (plainOctets "read\r") (plainOctets "pending\r\n")
          (by decide) (by decide) (apart (by decide +kernel))], by decide, rfl⟩,
        ⟨.command (.plain "version"), [.lined (plainOctets "version\r") (plainOctets "0.12>")
          (by decide) (by decide) (apart (by decide +kernel))], by decide, rfl⟩,
        ⟨.access (.read .dmstatus), [.lined (plainOctets "read\r") (plainOctets "0x382\r\n")
          (by decide) (by decide) (apart (by decide +kernel))], by decide, rfl⟩]
    have alone : Frame.read? Console.prompt true (plainOctets "Hello\r\n> ") =
        some (plainOctets "Hello\r\n", []) := by
      rw [Console.bytes_prompt]
      decide +kernel
    have greeting := (Frame.takesFront Console.prompt true).append alone (turns.flatMap (·.octets) ++ [])
    rw [List.nil_append] at greeting
    have pieces : (["Hello\r\n>", " write\r\nFail", "ed\r\n>", " read\r\npending\r", "\n> version\r\n0.12",
        ">", "> read\r\n0x382\r\n> "].map plainOctets).flatten =
          plainOctets "Hello\r\n> " ++ turns.flatMap (·.octets) := by
      simp only [turns, Service.Turn.octets, Service.octetsOf, Service.WholeReply.lined, Console.bytes_prompt,
        List.flatMap_cons, List.flatMap_nil]
      decide +kernel
    have left : (turns.drop 3).flatMap (·.octets) ++ [] = plainOctets "read\r\n0x382\r\n> " := by
      simp only [turns, Service.Turn.octets, Service.octetsOf, Service.WholeReply.lined, Console.bytes_prompt,
        List.drop_succ_cons, List.drop_zero, List.flatMap_cons, List.flatMap_nil]
      decide +kernel
    have before : c.Stands ScriptedStream.Brings "riscv.cpu" []
        (plainOctets "Hello\r\n> " ++ (turns.flatMap (·.octets) ++ [])) :=
      ⟨rfl, _, rfl, rfl, _, ⟨⟨_, rfl, by decide, pieces⟩, rfl, nofun⟩, by rw [List.append_nil]; rfl⟩
    obtain ⟨c₁, connected, greeted⟩ :=
      Console.yields_connect ScriptedStream.delivers "riscv.cpu" greeting c before
    obtain ⟨c', ran, after⟩ := in_step.1 turns [] [] 3 c₁ greeted
    have failed : Service.console.outcome (plainOctets "Failed\r\n") (.access (.write .dmcontrol 1)) =
      .error (.adapterFailure "Failed") := rfl
    have no_number : Service.console.outcome (plainOctets "pending\r\n") (.access (.read .dmstatus)) =
      .error (.protocol (.notHexadecimal "pending")) := rfl
    have version : Service.console.outcome (plainOctets "0.12>") (.command (.plain "version")) =
      .ok (.text "0.12>") := rfl
    have answered : (turns.take 3).map (·.outcome) = outcomes :=
      congrArg₂ _ failed (congrArg₂ _ no_number (congrArg₂ _ version rfl))
    rw [answered] at ran
    exact ⟨c', (Action.exec_bind_ok connected _).trans ran, left ▸ after⟩
  · let turns : List (Service.tcl.Turn "riscv.cpu") :=
      [⟨.access (.write .dmcontrol 1), [.marked (plainOctets "Failed") (by decide)], by decide, rfl⟩,
        ⟨.access (.read .dmstatus), [.marked (plainOctets "pending") (by decide)], by decide, rfl⟩,
        ⟨.command (.plain "version"), [.marked (plainOctets "0.12>\n") (by decide)], by decide, rfl⟩,
        ⟨.access (.read .dmstatus), [.marked (plainOctets "0x382") (by decide)], by decide, rfl⟩]
    have before : t.Stands ScriptedStream.Brings "riscv.cpu" [] (turns.flatMap (·.octets) ++ []) :=
      ⟨rfl, _, rfl, rfl, _, ⟨⟨["Failed\x1ape", "nding", "\x1a0.12>\n\x1a0x3", "82\x1a"].map plainOctets, rfl,
        by decide, by decide +kernel⟩, rfl, nofun⟩, rfl⟩
    obtain ⟨t', ran, after⟩ := in_step.2 turns [] [] 3 t before
    exact ⟨t', ran, after⟩

end HartDebug
