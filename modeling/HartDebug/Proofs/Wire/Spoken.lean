import HartDebug.Proofs.Wire.InStep
import HartDebug.Proofs.Wire.Sending

/-!
# What operations say

Over any stream, whatever becomes of it, an operation on a session with an adapter sends the commands of its
accesses and nothing else.  A stream that takes no more cuts a command off, so what has been sent of each is its
beginning.  No such command is a farewell: those begin otherwise.

* `Service.IsCommand`, `Service.IsCommand.not_farewell` — the beginning of a command of an access;
* `Link.Utters`, `Link.Talks` — between two states of a link octets of some kind, or such commands, were sent;
* `Console.utters_executeLines`, `TclServer.utters_run` — **a command is sent as far as the stream takes it**;
* `Console.talks`, `TclServer.talks` — **every access is made of commands**, on both services.
-/

namespace HartDebug

open Action (Moves IsTravel)

variable {σ α : Type}

/-! ## Commands -/

/-- The command itself. -/
def Exchange.command : Exchange → String
  | .plain command => command
  | .printed command => command

namespace Service

/-- What is said before hanging up. -/
def farewell : Service → List Byte
  | .console => Utf8.bytes "exit\n"
  | .tcl => Utf8.bytes "exit" ++ [TclServer.endMark]

/-- The octets begin a command that an access to a target behind the tap sends. -/
def IsCommand (service : Service) (tap : String) (octets : List Byte) : Prop :=
  ∃ call, ∃ exchange ∈ (WireCall.access call).exchanges tap, octets <+: service.line exchange

theorem head?_farewell (service : Service) : service.farewell.head? = some 0x65 := by
  cases service <;> decide +kernel

/-- The text begins otherwise than a farewell. -/
def BeginsApart (text : String) : Prop :=
  ∃ b, (Utf8.bytes text).head? = some b ∧ b ≠ 0x65

theorem BeginsApart.append {text : String} (apart : BeginsApart text) (more : String) :
    BeginsApart (text ++ more) := by
  obtain ⟨b, head, other⟩ := apart
  exact ⟨b, by rw [Utf8.bytes_append, List.head?_append, head]; rfl, other⟩

/-- Every command of an access begins otherwise. -/
theorem beginsApart_exchange {tap : String} {call : TransportCall} {exchange : Exchange}
    (sent : exchange ∈ (WireCall.access call).exchanges tap) : BeginsApart exchange.command := by
  have write : BeginsApart "riscv dmi_write " := ⟨0x72, by decide +kernel, by decide⟩
  have read : BeginsApart "riscv dmi_read " := ⟨0x72, by decide +kernel, by decide⟩
  have select : BeginsApart "irscan " := ⟨0x69, by decide +kernel, by decide⟩
  have shift : BeginsApart "drscan " := ⟨0x64, by decide +kernel, by decide⟩
  have reset : BeginsApart "pathmove RESET IDLE" := ⟨0x70, by decide +kernel, by decide⟩
  have scanned {i : Instruction} {value : Word} (sent : exchange ∈ WireCall.scanned tap i value) :
      BeginsApart exchange.command := by
    rcases List.mem_pair.1 sent with rfl | rfl
    · exact ((select.append _).append _).append _
    · exact ((((shift.append _).append _).append _).append _).append _
  cases call with
  | write address data =>
    obtain rfl := List.mem_singleton.1 sent
    exact ((write.append _).append _).append _
  | read address =>
    obtain rfl := List.mem_singleton.1 sent
    exact read.append _
  | expect address expected mask =>
    obtain rfl := List.mem_singleton.1 sent
    exact read.append _
  | resetTap =>
    obtain rfl := List.mem_singleton.1 sent
    exact reset
  | writeDtmcs value => exact scanned sent
  | readDtmcs => exact scanned sent
  | readIdcode => exact scanned sent
  | expectIdcode expected => exact scanned sent
  | _ => exact absurd sent List.not_mem_nil

/-- So does what is sent for it. -/
theorem head?_line (service : Service) {exchange : Exchange} (apart : BeginsApart exchange.command) :
    (service.line exchange).head? ≠ some 0x65 := by
  have differs {octets : List Byte} {b : Byte} (head : octets.head? = some b) (other : b ≠ 0x65) :
      octets.head? ≠ some 0x65 := by
    rw [head]
    exact fun same => other (Option.some.inj same)
  cases service with
  | console =>
    obtain ⟨b, head, other⟩ := apart.append "\n"
    cases exchange <;> exact differs head other
  | tcl =>
    cases exchange with
    | plain command =>
      obtain ⟨b, head, other⟩ := apart
      refine differs (b := b) ?_ other
      rw [line, List.head?_append, show (Utf8.bytes command).head? = some b from head]
      rfl
    | printed command =>
      have capture : BeginsApart "capture \"" := ⟨0x63, by decide +kernel, by decide⟩
      obtain ⟨b, head, other⟩ := (capture.append (String.ofList (Tcl.quoteBody command.toList))).append "\""
      refine differs (b := b) ?_ other
      rw [line, List.head?_append, head]
      rfl

theorem IsCommand.not_farewell {service : Service} {tap : String} {octets : List Byte}
    (command : service.IsCommand tap octets) : ¬ service.farewell <+: octets := by
  rintro whole
  obtain ⟨call, exchange, sent, front⟩ := command
  obtain ⟨rest, line⟩ := whole.trans front
  refine service.head?_line (beginsApart_exchange sent) ?_
  rw [← line, List.head?_append, service.head?_farewell]
  rfl

end Service

/-! ## Links -/

namespace Link

/-- From one state of a link to the next octets have been sent, one piece after another, each of some kind. -/
def Utters (kind : List Byte → Prop) (l l' : Link σ) : Prop :=
  ∃ said : List (List Byte), l'.sent = l.sent ++ said.flatten ∧ ∀ octets ∈ said, kind octets

/-- From one state of a link that is directed at a tap to the next, commands of accesses have been sent, each as
far as the stream has taken it, and the link is still directed at the tap. -/
def Talks (service : Service) (tap : String) (l l' : Link σ) : Prop :=
  l.tapName = tap → l'.tapName = tap ∧ l.Utters (service.IsCommand tap) l'

variable {service : Service} {tap : String} {kind kind' : List Byte → Prop}

theorem isTravel_utters : IsTravel (Utters (σ := σ) kind) where
  refl _ := ⟨[], (List.append_nil _).symm, nofun⟩
  trans first second := by
    obtain ⟨said, sent, each⟩ := first
    obtain ⟨more, sent', each'⟩ := second
    refine ⟨said ++ more, ?_, List.forall_mem_append.2 ⟨each, each'⟩⟩
    rw [sent', sent, List.flatten_append, List.append_assoc]

theorem isTravel_talks : IsTravel (Talks (σ := σ) service tap) where
  refl l named := ⟨named, isTravel_utters.refl l⟩
  trans first second named := by
    obtain ⟨named', uttered⟩ := first named
    obtain ⟨named'', uttered'⟩ := second named'
    exact ⟨named'', isTravel_utters.trans uttered uttered'⟩

theorem Utters.mono {l l' : Link σ} (uttered : l.Utters kind l') (weaker : ∀ octets, kind octets → kind' octets) :
    l.Utters kind' l' := by
  obtain ⟨said, sent, each⟩ := uttered
  exact ⟨said, sent, fun octets mem => weaker octets (each octets mem)⟩

/-- **Octets are sent** as far as the stream takes them. -/
theorem moves_use_utters {octets : List Byte} {x : Action DebugError (Connection σ) α} [ByteStream σ]
    (sends : Connection.Sends octets x) : Moves (Utters (· <+: octets)) (use x) := by
  intro l
  obtain ⟨taken, sent, front⟩ := exists_sent sends l
  refine ⟨[taken], ?_, List.forall_mem_singleton.2 front⟩
  rw [sent, List.flatten_singleton]

/-- What is done on the open connection sends nothing if it sends nothing there. -/
theorem moves_use_sent {x : Action DebugError (Connection σ) α} (silent : Moves Connection.SameSent x) :
    Moves (fun l l' : Link σ => l'.sent = l.sent) (use x) := by
  intro l
  cases opened : l.connection with
  | none => rw [exec_use_of_none opened]
  | some connection =>
    have same : (x.exec connection).2.sent = connection.sent := silent connection
    rw [exec_use opened]
    simp [sent, opened, same]

theorem moves_use_silent {x : Action DebugError (Connection σ) α} (silent : Moves Connection.SameSent x) :
    Moves (Utters kind) (use x) := fun l =>
  ⟨[], (moves_use_sent silent l).trans (List.append_nil _).symm, nofun⟩

/-- A link on which the beginning of a command of an access was sent, and nothing else. -/
theorem talks_of_utters {call : TransportCall} {exchange : Exchange} {l l' : Link σ}
    (asked : exchange ∈ (WireCall.access call).exchanges tap) (named : l'.tapName = l.tapName)
    (uttered : l.Utters (· <+: service.line exchange) l') : l.Talks service tap l' := fun here =>
  ⟨named.trans here, uttered.mono fun _ front => ⟨call, exchange, asked, front⟩⟩

end Link

/-! ## The two services -/

namespace Console

/-- Between two states of a console octets of some kind were sent. -/
def Utters (kind : List Byte → Prop) (c c' : Console σ) : Prop :=
  c.link.Utters kind c'.link

/-- Between two states of a console commands of accesses were sent. -/
def Talks (tap : String) (c c' : Console σ) : Prop :=
  c.link.Talks .console tap c'.link

theorem travel_utters (kind : List Byte → Prop) : IsTravel (Utters (σ := σ) kind) where
  refl _ := Link.isTravel_utters.refl _
  trans first second := Link.isTravel_utters.trans first second

theorem travel_talks (tap : String) : IsTravel (Talks (σ := σ) tap) where
  refl _ := Link.isTravel_talks.refl _
  trans first second := Link.isTravel_talks.trans first second

variable [ByteStream σ] {tap : String}

/-- **A command is sent**, and its answer read. -/
theorem utters_executeLines (exchange : Exchange) :
    Moves (Utters (· <+: Service.console.line exchange)) (executeLines (σ := σ) exchange.command) := by
  have travel := travel_utters (σ := σ) (· <+: Service.console.line exchange)
  have line : Service.console.line exchange = Utf8.bytes (exchange.command ++ "\n") := by
    cases exchange <;> rfl
  have sends : Connection.Sends (Service.console.line exchange) (do
      Connection.send (σ := σ) (Utf8.bytes (exchange.command ++ "\n"))
      discard (Connection.readUntil (Utf8.bytes "\n") true)) := by
    rw [line]
    exact (Connection.sends_send _).bind fun _ =>
      (Connection.moves_readUntil _ _).map Connection.isTravel_sameSent _
  have sent : Moves (Utters (· <+: Service.console.line exchange)) (sendLine (σ := σ) exchange.command) :=
    (Moves.log travel _ _ _).bind travel fun _ => (Link.moves_use_utters sends).onPart fun _ _ said => said
  have read : Moves (Utters (· <+: Service.console.line exchange))
      (onLink (Link.use (Connection.readUntil (σ := σ) prompt true))) :=
    (Link.moves_use_silent (Connection.moves_readUntil _ _)).onPart fun _ _ said => said
  exact sent.bind travel fun _ => read.bind travel fun _ => .pure travel _

theorem utters_execute (exchange : Exchange) :
    Moves (Utters (· <+: Service.console.line exchange)) (execute (σ := σ) exchange.command) :=
  (utters_executeLines exchange).bind (travel_utters _) fun _ => .pure (travel_utters _) _

/-- A command of an access is sent, and its answer read. -/
theorem talks_execute (call : TransportCall) (exchange : Exchange)
    (asked : exchange ∈ (WireCall.access call).exchanges tap) :
    Moves (Talks tap) (execute (σ := σ) exchange.command) := fun c =>
  Link.talks_of_utters asked (moves_execute_tapName exchange.command c) (utters_execute exchange c)

/-- The instruction is selected under the name of the tap that the link is directed at. -/
theorem talks_scan (call : TransportCall) {i : Instruction} {value : Word}
    (asked : (WireCall.access call).exchanges tap = WireCall.scanned tap i value) :
    Moves (Talks tap) (scan (σ := σ) i value) := by
  intro c named
  have travel := travel_talks (σ := σ) tap
  have select : Moves (Talks tap) (execute (σ := σ) (i.selectCommand tap)) :=
    talks_execute call (.plain _) (asked ▸ List.mem_cons_self)
  have shift : Moves (Talks tap) (execute (σ := σ) (i.shiftCommand tap value)) :=
    talks_execute call (.printed _) (asked ▸ List.mem_cons_of_mem _ List.mem_cons_self)
  rw [scan, Action.exec_bind_ok (Action.exec_get c), named]
  exact ((select.map travel _).bind travel fun _ => shift) c named

theorem talks_read (address : BusAddress) :
    Moves (Talks tap) (Bus.read address : Action DebugError (Console σ) Word) :=
  moves_wordUnlessFailed (travel_talks tap) (talks_execute (.read address) (.printed _) List.mem_cons_self) _

theorem talks_readIdcode : Moves (Talks tap) (Bus.readIdcode : Action DebugError (Console σ) Word) :=
  moves_word (travel_talks tap) (talks_scan .readIdcode rfl)

/-- **Every access is made of commands.** -/
theorem talks (tap : String) : Transport.Stays (Talks (σ := σ) tap) where
  travel := travel_talks tap
  write address data := moves_acknowledged (travel_talks tap)
    (talks_execute (.write address data) (.printed _) List.mem_cons_self) _
  read := talks_read
  writeDtmcs value := (talks_scan (.writeDtmcs value) rfl).map (travel_talks tap) _
  readDtmcs := moves_word (travel_talks tap) (talks_scan .readDtmcs rfl)
  readIdcode := talks_readIdcode
  resetTap := (talks_execute .resetTap (.plain _) List.mem_cons_self).map (travel_talks tap) _
  expect _ := moves_readAndCompare (travel_talks tap) (talks_read _)
  expectIdcode := moves_readAndCompareIdcode (travel_talks tap) talks_readIdcode
  idle _ := .pure (travel_talks tap) ()

end Console

namespace TclServer

/-- Between two states of a session octets of some kind were sent. -/
def Utters (kind : List Byte → Prop) (t t' : TclServer σ) : Prop :=
  t.link.Utters kind t'.link

/-- Between two states of a session commands of accesses were sent. -/
def Talks (tap : String) (t t' : TclServer σ) : Prop :=
  t.link.Talks .tcl tap t'.link

theorem travel_utters (kind : List Byte → Prop) : IsTravel (Utters (σ := σ) kind) where
  refl _ := Link.isTravel_utters.refl _
  trans first second := Link.isTravel_utters.trans first second

theorem travel_talks (tap : String) : IsTravel (Talks (σ := σ) tap) where
  refl _ := Link.isTravel_talks.refl _
  trans first second := Link.isTravel_talks.trans first second

variable [ByteStream σ] {tap : String}

/-- What is sent, with the end mark, is sent as far as the stream takes it, and the reply is read. -/
theorem utters_send (command : String) :
    Moves (Utters (· <+: Utf8.bytes command ++ [endMark])) (send (σ := σ) command) := by
  have travel := travel_utters (σ := σ) (· <+: Utf8.bytes command ++ [endMark])
  exact (Moves.log travel _ _ _).bind travel fun _ =>
    (Link.moves_use_utters (sends_exchange command)).onPart fun _ _ said => said

/-- **A command is sent**, and its reply read. -/
theorem utters_run (exchange : Exchange) :
    Moves (Utters (· <+: Service.tcl.line exchange)) (run (σ := σ) exchange) := by
  cases exchange with
  | plain command => exact utters_send command
  | printed command => exact (utters_send _).bind (travel_utters _) fun _ => .pure (travel_utters _) _

/-- A command leaves the tap that the link is directed at. -/
theorem moves_run_tapName (exchange : Exchange) :
    Moves (fun t t' : TclServer σ => t'.link.tapName = t.link.tapName) (run exchange) := by
  have travel : IsTravel fun t t' : TclServer σ => t'.link.tapName = t.link.tapName :=
    ⟨fun _ => rfl, fun first second => second.trans first⟩
  have sent (command : String) :
      Moves (fun t t' : TclServer σ => t'.link.tapName = t.link.tapName) (send command) :=
    (Moves.log travel _ _ _).bind travel fun _ => (Link.moves_use_tapName _).onPart fun _ _ same => same
  cases exchange with
  | plain command => exact sent command
  | printed command => exact (sent _).bind travel fun _ => .pure travel _

/-- A command of an access is sent, and its reply read. -/
theorem talks_run (call : TransportCall) (exchange : Exchange)
    (asked : exchange ∈ (WireCall.access call).exchanges tap) :
    Moves (Talks tap) (run (σ := σ) exchange) := fun t =>
  Link.talks_of_utters asked (moves_run_tapName exchange t) (utters_run exchange t)

theorem talks_scan (call : TransportCall) {i : Instruction} {value : Word}
    (asked : (WireCall.access call).exchanges tap = WireCall.scanned tap i value) :
    Moves (Talks tap) (scan (σ := σ) i value) := by
  intro t named
  have travel := travel_talks (σ := σ) tap
  have select : Moves (Talks tap) (send (σ := σ) (i.selectCommand tap)) :=
    talks_run call (.plain _) (asked ▸ List.mem_cons_self)
  have shift : Moves (Talks tap) (capture (σ := σ) (i.shiftCommand tap value)) :=
    talks_run call (.printed _) (asked ▸ List.mem_cons_of_mem _ List.mem_cons_self)
  rw [scan, Action.exec_bind_ok (Action.exec_get t), named]
  exact ((select.map travel _).bind travel fun _ => shift) t named

theorem talks_read (address : BusAddress) :
    Moves (Talks tap) (Bus.read address : Action DebugError (TclServer σ) Word) :=
  moves_wordUnlessFailed (travel_talks tap) (talks_run (.read address) (.printed _) List.mem_cons_self) _

theorem talks_readIdcode : Moves (Talks tap) (Bus.readIdcode : Action DebugError (TclServer σ) Word) :=
  moves_word (travel_talks tap) (talks_scan .readIdcode rfl)

/-- **Every access is made of commands.** -/
theorem talks (tap : String) : Transport.Stays (Talks (σ := σ) tap) where
  travel := travel_talks tap
  write address data := moves_acknowledged (travel_talks tap)
    (talks_run (.write address data) (.printed _) List.mem_cons_self) _
  read := talks_read
  writeDtmcs value := (talks_scan (.writeDtmcs value) rfl).map (travel_talks tap) _
  readDtmcs := moves_word (travel_talks tap) (talks_scan .readDtmcs rfl)
  readIdcode := talks_readIdcode
  resetTap := (talks_run .resetTap (.plain _) List.mem_cons_self).map (travel_talks tap) _
  expect _ := moves_readAndCompare (travel_talks tap) (talks_read _)
  expectIdcode := moves_readAndCompareIdcode (travel_talks tap) talks_readIdcode
  idle _ := .pure (travel_talks tap) ()

end TclServer

end HartDebug
