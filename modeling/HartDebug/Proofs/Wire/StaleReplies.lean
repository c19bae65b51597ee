import HartDebug.Proofs.Wire.Replies

/-!
# Stale replies

A read of a register sends a command and reads a reply.  Over a stream that fails now and then, a read may be
answered by the reply to an earlier one, and is then no error.

* `Bus.readEach` — reads of registers one after another;
* `Service.Answers` — a way of having commands run that reads a reply for each;
* `Console.answers_over`, `TclServer.answers_over` — both sessions run commands in such a way;
* `answers_of_interrupted_reads` — **what reads over a stream that fails now and then return**;
* `TclServer.stale_after_failure` — **a reply to an earlier command is returned**, whatever it holds.
-/

namespace HartDebug

open Action (Triple)

/-! ## Sessions -/

/-- Read registers of the bus one after another, each with its outcome. -/
def Bus.readEach {τ : Type} [Bus τ] : List BusAddress → Action DebugError τ (List (Except DebugError Word))
  | [] => pure []
  | address :: rest => do
    let outcome ← (Bus.read address).attempt
    let outcomes ← readEach rest
    pure (outcome :: outcomes)

theorem Bus.exec_readEach_cons {τ : Type} [Bus τ] {address : BusAddress} {rest : List BusAddress}
    {outcome : Except DebugError Word} {outcomes : List (Except DebugError Word)} {t t' : τ}
    (ran : (Bus.read address).exec t = (outcome, t')) (later : ((readEach rest).exec t').1 = .ok outcomes) :
    ((readEach (address :: rest)).exec t).1 = .ok (outcome :: outcomes) := by
  rw [readEach, Action.exec_bind_ok (Action.exec_attempt _ _), ran, Action.exec_bind]
  generalize (readEach rest).exec t' = ran' at later
  obtain ⟨_, t''⟩ := ran'
  cases later
  rfl

section Answers

variable {τ : Type} {awaits : List Byte → τ → Prop} {service : Service}

/-- Running a command reads a reply. -/
def Service.Answers (service : Service) (awaits : List Byte → τ → Prop)
    (run : String → Action DebugError τ String) : Prop :=
  ∀ command, Parses awaits (parseMap service.wording service.body?) (run command)

/-- A read of a register is a command and the value in the reply to it. -/
theorem Service.Answers.triple_read {run : String → Action DebugError τ String}
    (answers : service.Answers awaits run) (command : String) (source : Source) (octets : List Byte) :
    Triple (awaits octets)
      (Action.attempt (do
        let answer ← run command
        let answer ← Reply.unlessFailed source answer
        Action.ofExcept (Reply.word answer)) : Action DebugError τ (Except DebugError Word))
      (fun outcome t => ∃ rest, service.Read octets outcome rest ∧ awaits rest t) (fun _ _ => False) := by
  intro t waiting
  have ended := answers command octets t waiting
  rw [Action.exec_attempt, Action.exec_bind]
  generalize (run command).exec t = ran at ended
  obtain ⟨outcome, t'⟩ := ran
  cases outcome with
  | error e =>
    obtain ⟨⟨fault, rfl⟩, part, rest, split, unfinished, waiting'⟩ := ended
    exact ⟨rest, .cut fault split (Option.map_eq_none_iff.1 unfinished), waiting'⟩
  | ok answer =>
    obtain ⟨rest, parsed, waiting'⟩ := ended
    obtain ⟨⟨body, left⟩, taken, made⟩ := Option.map_eq_some_iff.1 parsed
    cases made
    dsimp only
    rw [exec_readingOf]
    exact ⟨left, .answered taken, waiting'⟩

/-- **One read after another is answered by one stretch of octets after another.** -/
theorem Service.Answers.triple_readEach [Bus τ] {run : String → Action DebugError τ String}
    (answers : service.Answers awaits run) {command : BusAddress → String} {source : Source}
    (reads : ∀ address, (Bus.read address : Action DebugError τ Word) = (do
      let answer ← run (command address)
      let answer ← Reply.unlessFailed source answer
      Action.ofExcept (Reply.word answer)))
    (addresses : List BusAddress) (octets : List Byte) :
    Triple (awaits octets) (Bus.readEach addresses : Action DebugError τ _)
      (fun outcomes _ => service.Reads octets outcomes ∧ outcomes.length = addresses.length)
      (fun _ _ => False) := by
  induction addresses generalizing octets with
  | nil => exact .pure fun _ _ => ⟨.none, rfl⟩
  | cons address rest ih =>
    rw [Bus.readEach, reads]
    refine (answers.triple_read (command address) source octets).bind fun outcome t read => ?_
    obtain ⟨left, read, waiting⟩ := read
    refine Triple.bind (ih left) (fun outcomes => ?_) t waiting
    exact .pure fun _ later => ⟨.next read later.1, congrArg (· + 1) later.2⟩

/-- Where what is still to come is a reply for each read, every read has an outcome. -/
theorem Service.Answers.exec_readEach [Bus τ] {run : String → Action DebugError τ String}
    (answers : service.Answers awaits run) {command : BusAddress → String} {source : Source}
    (reads : ∀ address, (Bus.read address : Action DebugError τ Word) = (do
      let answer ← run (command address)
      let answer ← Reply.unlessFailed source answer
      Action.ofExcept (Reply.word answer)))
    {addresses : List BusAddress} {replies : List service.WholeReply}
    (each : replies.length = addresses.length) {t : τ} (waiting : awaits (service.octetsOf replies) t) :
    ∃ outcomes, ((Bus.readEach addresses).exec t).1 = .ok outcomes ∧ outcomes.length = replies.length ∧
      service.Reads (service.octetsOf replies) outcomes := by
  have ended := answers.triple_readEach reads addresses _ t waiting
  generalize (Bus.readEach addresses).exec t = ran at ended
  obtain ⟨outcome, t'⟩ := ran
  cases outcome with
  | error e => exact ended.elim
  | ok outcomes => exact ⟨outcomes, rfl, ended.2.trans each.symm, ended.1⟩

end Answers

variable {σ : Type} [ByteStream σ] {holds : List Byte → σ → Prop}

namespace Console

/-- The console is connected, and octets are still to be read. -/
def Awaits (holds : List Byte → σ → Prop) (octets : List Byte) (c : Console σ) : Prop :=
  Link.Open (Connection.Awaits holds) octets c.link

omit [ByteStream σ] in
theorem parses_onLink {α : Type} {parse : List Byte → Option (α × List Byte)}
    {x : Action DebugError (Connection σ) α} (h : Parses (Connection.Awaits holds) parse x) :
    Parses (Awaits holds) parse (onLink (Link.use x)) :=
  .onPart (fun _ _ => rfl) (Link.parses_use h)

theorem parses_sendLine (carries : ByteStream.Carries holds) (command : String) :
    Parses (Awaits holds) (parseMap (fun _ => ()) (Frame.read? [0x0a] true)) (sendLine command) := by
  have newline : Utf8.bytes "\n" = [0x0a] := by
    rw [Utf8.bytes_eq]
    decide
  have exchange : Parses (Connection.Awaits holds) (parseMap (fun _ => ()) (Frame.read? [0x0a] true)) (do
      Connection.send (σ := σ) (Utf8.bytes (command ++ "\n"))
      discard (Connection.readUntil [0x0a] true)) :=
    .bind (takesFront_nothing ()) (Connection.parses_send carries _) fun _ =>
      .map (fun _ => ()) (Connection.parses_readUntil carries _ _)
  rw [sendLine, newline]
  exact .bind (takesFront_nothing ()) (.log _ _ _) fun _ => parses_onLink exchange

theorem answers_over (carries : ByteStream.Carries holds) :
    Service.console.Answers (Awaits (σ := σ) holds) execute := by
  intro command
  have answer : Parses (Awaits holds) (parseMap _ (Frame.read? prompt true)) (readAnswer (σ := σ)) :=
    .map _ (parses_onLink (Connection.parses_readUntil carries prompt true))
  have lines := Parses.bind ((Frame.takesFront [0x0a] true).parseMap fun _ => ())
    (parses_sendLine carries command) fun _ => answer
  have answers := Parses.map (fun answer => String.ofList (answer.toList.filter (· != '\n'))) lines
  refine answers.of_eq fun octets => ?_
  rw [parseMap, parseThen, parseMap, parseMap, Service.body?, parseThen]
  cases Frame.read? [0x0a] true octets with
  | none => rfl
  | some line =>
    rw [Option.map_some, Option.bind_some, Option.bind_some, parseMap, Option.map_map]
    congr 1
    funext taken
    simp only [Function.comp_apply, Service.wording, String.toList_ofList]

end Console

namespace TclServer

/-- The server is connected, and octets are still to be read. -/
def Awaits (holds : List Byte → σ → Prop) (octets : List Byte) (t : TclServer σ) : Prop :=
  Link.Open (Connection.Awaits holds) octets t.link

/-- A command reads a reply up to its end mark. -/
theorem parses_send (carries : ByteStream.Carries holds) (command : String) :
    Parses (Awaits (σ := σ) holds) (parseMap (fun reply => Text.trimEnd (Utf8.text reply)) Service.tcl.body?)
      (send command) := by
  have exchange : Parses (Connection.Awaits holds)
      (parseMap (fun reply => Text.trimEnd (Utf8.text reply)) (Frame.read? [endMark] false)) (do
        Connection.send (σ := σ) (Utf8.bytes command ++ [endMark])
        let reply ← Connection.readUntil [endMark] false
        pure (Text.trimEnd (Utf8.text reply))) :=
    .bind (takesFront_nothing ()) (Connection.parses_send carries _) fun _ =>
      .map _ (Connection.parses_readUntil carries _ _)
  exact .bind (takesFront_nothing ()) (.log _ _ _) fun _ =>
    .onPart (fun _ _ => rfl) (Link.parses_use exchange)

theorem answers_over (carries : ByteStream.Carries holds) :
    Service.tcl.Answers (Awaits (σ := σ) holds) capture := by
  intro command
  have captured := Parses.map Tcl.unwrapBraces
    (parses_send carries ("capture \"" ++ String.ofList (Tcl.quoteBody command.toList) ++ "\""))
  refine captured.of_eq fun octets => ?_
  rw [parseMap, parseMap, parseMap, Option.map_map]
  rfl

end TclServer

/-- **What reads over a stream that fails now and then return.**  Where what a stream still brings is one whole
reply for each of some reads, in their order, with failures anywhere among the octets, each read has an
outcome.  Up to the first that the stream has failed, each is answered by its own reply.  After it a read may
be answered by what was left of a reply to an earlier one: the console is so until what is left holds no
line, and the Tcl server for good, as the replies are taken in their order, each by the next read that the
stream does not fail. -/
theorem answers_of_interrupted_reads (carries : ByteStream.Carries holds) (addresses : List BusAddress) :
    (∀ (c : Console σ) (replies : List Service.console.WholeReply), replies.length = addresses.length →
      c.Awaits holds (Service.octetsOf replies) →
        ∃ outcomes, ((Bus.readEach addresses).exec c).1 = .ok outcomes ∧
          Service.console.Exchanges [] replies outcomes ∧
          ∃ k, outcomes.take k = (replies.take k).map (·.value) ∧
            (k = addresses.length ∨ ∃ fault, outcomes[k]? = some (.error (.transport .receive fault)))) ∧
    (∀ (t : TclServer σ) (replies : List Service.tcl.WholeReply), replies.length = addresses.length →
      t.Awaits holds (Service.octetsOf replies) →
        ∃ outcomes, ((Bus.readEach addresses).exec t).1 = .ok outcomes ∧
          Service.tcl.Exchanges [] replies outcomes ∧
          (∃ k, outcomes.take k = (replies.take k).map (·.value) ∧
            (k = addresses.length ∨ ∃ fault, outcomes[k]? = some (.error (.transport .receive fault)))) ∧
          ∃ tails, List.Forall₂ (· <:+ ·) tails ((replies.take tails.length).map (·.body)) ∧
            outcomes.filter (!Service.isCut ·) = tails.map Service.tcl.value) := by
  constructor
  · intro c replies each waiting
    obtain ⟨outcomes, ran, sizes, reads⟩ :=
      (Console.answers_over carries).exec_readEach (fun _ => rfl) each waiting
    have exchanges := reads.exchanges (Service.trails_nil _) sizes
    refine ⟨outcomes, ran, exchanges, ?_⟩
    rw [← each, ← sizes]
    exact exchanges.until_cut
  · intro t replies each waiting
    obtain ⟨outcomes, ran, sizes, reads⟩ :=
      (TclServer.answers_over carries).exec_readEach (fun _ => rfl) each waiting
    have exchanges := reads.exchanges (Service.trails_nil _) sizes
    obtain ⟨octets, wholes⟩ := Service.octetsOf_tcl replies
    have in_order := reads.in_order wholes octets (Nat.le_of_eq (sizes.trans (List.length_map _).symm))
    refine ⟨outcomes, ran, exchanges, ?_, ?_⟩
    · rw [← each, ← sizes]
      exact exchanges.until_cut
    · simpa only [List.map_take] using in_order

/-! ## A failure before the first of two replies -/

/-- A stream that takes everything at once has it taken when it is sent. -/
theorem ScriptedStream.exec_send {s : ScriptedStream} (room : s.room = none) (most : s.most = none)
    (octets buffer sent : List Byte) :
    ∃ sent', (Connection.send octets).exec ⟨s, buffer, sent⟩ = (.ok (), ⟨s, buffer, sent'⟩) := by
  rw [Connection.send, Action.exec_bind_ok (Action.exec_log _ _ _ _)]
  cases octets with
  | nil => exact ⟨sent, by rw [Connection.sendAll]; rfl⟩
  | cons b rest =>
    have taken : ByteStream.offer (b :: rest) s = (.ok (rest.length + 1), s) := by
      show s.offer (b :: rest) = _
      obtain ⟨incoming, most', room', full⟩ := s
      cases room
      cases most
      simp [offer, takes]
    refine ⟨sent ++ (b :: rest), ?_⟩
    rw [Connection.sendAll, Action.exec_bind_ok (Action.exec_get _)]
    dsimp only
    rw [taken]
    simp [Action.exec_bind_ok (Action.exec_set _ _), Connection.sendAll]

namespace TclServer

/-- A read of a register is one exchange over the connection. -/
theorem exec_read {t : TclServer σ} {connection : Connection σ} (opened : t.link.connection = some connection)
    (address : BusAddress) {outcome : Except DebugError (List Byte)} {after : Connection σ → Prop}
    (exchange : ∀ octets, ∃ c c', (Connection.send octets).exec connection = (.ok (), c) ∧
      (Connection.readUntil [endMark] false).exec c = (outcome, c') ∧ after c') :
    ∃ t' c', (Bus.read address : Action DebugError (TclServer σ) Word).exec t =
        (outcome.bind Service.tcl.value, t') ∧
      t'.link.connection = some c' ∧ after c' := by
  let command := s!"riscv dmi_read {Hex.text address.toNat}"
  let line := "capture \"" ++ String.ofList (Tcl.quoteBody command.toList) ++ "\""
  obtain ⟨c, c', sent, read, held⟩ := exchange (Utf8.bytes line ++ [endMark])
  let t' : TclServer σ := { t with link := { t.link with connection := some c' } }
  have exchanged : (do
      Connection.send (Utf8.bytes line ++ [endMark])
      let reply ← Connection.readUntil [endMark] false
      pure (Text.trimEnd (Utf8.text reply))).exec connection =
        (outcome.map fun reply => Text.trimEnd (Utf8.text reply), c') := by
    rw [Action.exec_bind_ok sent, Action.exec_bind, read]
    cases outcome <;> rfl
  have answered : (send line).exec t = (outcome.map fun reply => Text.trimEnd (Utf8.text reply), t') := by
    rw [send, Action.exec_bind_ok (Action.exec_log _ _ _ t), onLink, Action.exec_onPart,
      Link.exec_use opened, exchanged]
  have captured : (capture command).exec t = (outcome.map Service.tcl.wording, t') := by
    rw [capture, Action.exec_bind, answered]
    cases outcome <;> rfl
  refine ⟨t', c', ?_, rfl, held⟩
  show (do
    let reply ← capture command
    let reply ← Reply.unlessFailed .tcl reply
    Action.ofExcept (Reply.word reply)).exec t = _
  rw [Action.exec_bind, captured]
  cases outcome with
  | error e => rfl
  | ok body =>
    dsimp only [Except.map, Except.bind]
    rw [exec_readingOf, Service.value]

/-- **A failure before the first of two replies lets the second command be answered by the first reply**,
whatever the replies hold. -/
theorem stale_after_failure (first second : Service.tcl.WholeReply) (text : String) (a b : BusAddress)
    (config : SessionConfig) (dial : Endpoint → Except StreamFault ScriptedStream) :
    let script : List Piece := [.failure text, .octets first.octets, .octets second.octets]
    ((Bus.readEach [a, b]).exec (ofStream { incoming := script } config dial)).1 =
      .ok [.error (.transport .receive (.reported text)), first.value] := by
  intro script
  let started : Connection ScriptedStream := ⟨{ incoming := script }, [], []⟩
  let resumed : ScriptedStream := { incoming := script.tail }
  -- The first command is sent, and the stream fails before its reply.
  have failing : ∀ octets, ∃ c c', (Connection.send octets).exec started = (.ok (), c) ∧
      (Connection.readUntil [endMark] false).exec c =
        (.error (.transport .receive (.reported text)), c') ∧ ∃ sent, c' = ⟨resumed, [], sent⟩ := by
    intro octets
    obtain ⟨sent, taken⟩ := ScriptedStream.exec_send (s := { incoming := script }) rfl rfl octets [] []
    exact ⟨_, _, taken, Connection.exec_readUntil_failed rfl, sent, rfl⟩
  -- The second command is sent, and what comes next is the first reply.
  have answering : ∀ sent octets, ∃ c c', (Connection.send octets).exec ⟨resumed, [], sent⟩ = (.ok (), c) ∧
      (Connection.readUntil [endMark] false).exec c = (.ok first.body, c') ∧ True := by
    intro sent octets
    obtain ⟨sent', taken⟩ := ScriptedStream.exec_send (s := resumed) rfl rfl octets [] sent
    obtain ⟨reply, whole⟩ := first.framed.of_tcl
    obtain ⟨o, piece, split⟩ : ∃ o piece, first.octets = o :: piece := by
      rw [reply]
      exact List.exists_cons_of_ne_nil (List.append_ne_nil_of_right_ne_nil _ (List.cons_ne_nil _ _))
    have read : Frame.read? [endMark] false (o :: piece) = some (first.body, []) := by
      rw [← split, reply, ← List.append_nil (first.body ++ _)]
      exact Service.body?_tcl whole []
    have received : ByteStream.receive resumed =
        (.ok (o :: piece), { incoming := [.octets second.octets] }) := by
      rw [← split]
      rfl
    exact ⟨_, _, taken, (Connection.exec_readUntil_received received).trans
      (Connection.exec_readUntil_buffered read), trivial⟩
  obtain ⟨t, c, ran, opened, sent, rfl⟩ :=
    exec_read (t := ofStream { incoming := script } config dial) rfl a failing
  obtain ⟨t', c', ran', -⟩ := exec_read opened b (answering sent)
  have nothing : ((Bus.readEach []).exec t').1 = .ok [] := rfl
  have both := Bus.exec_readEach_cons ran (Bus.exec_readEach_cons ran' nothing)
  rw [both]
  dsimp only [Except.bind, Service.WholeReply.value]

end TclServer

/-- A read that times out, so that the next read returns the value that it was about, and a console that is
not interrupted. -/
theorem answers_of_interrupted_reads_after_timeout :
    ∃ (t : TclServer ScriptedStream) (own own' : Service.tcl.WholeReply) (c : Console ScriptedStream)
      (reply : Service.console.WholeReply),
      let fault : DebugError := .transport .receive (.reported "timed out")
      t.Awaits ScriptedStream.Holds (Service.octetsOf [own, own']) ∧
      c.Awaits ScriptedStream.Holds (Service.octetsOf [reply]) ∧
      own.value = .ok 0x382 ∧ own'.value = .ok 0x83 ∧
      ((Bus.readEach [.dmstatus, .abstractcs]).exec t).1 = .ok [.error fault, .ok 0x382] ∧
      Service.tcl.Exchanges [] [own, own'] [.error fault, .ok 0x382] ∧
      ∃ outcomes, ((Bus.readEach [.dmstatus]).exec c).1 = .ok outcomes ∧
        Service.console.Exchanges [] [reply] outcomes := by
  -- The replies are 0x382 and 0x83; the console repeats a command before 0x382.
  let own : Service.tcl.WholeReply :=
    ⟨[0x30, 0x78, 0x33, 0x38, 0x32] ++ [TclServer.endMark], _, .tcl (by decide)⟩
  let own' : Service.tcl.WholeReply := ⟨[0x30, 0x78, 0x38, 0x33] ++ [TclServer.endMark], _, .tcl (by decide)⟩
  let line : List Byte := [0x72, 0x69, 0x73, 0x63, 0x76, 0x0d]
  let output : List Byte := [0x30, 0x78, 0x33, 0x38, 0x32, 0x0d, 0x0a]
  have whole : ¬ Console.prompt <:+: output ++ [0x3e] := by
    rw [Console.bytes_prompt]
    decide
  have plain : Telnet.interpretAsCommand ∉ line ++ [0x0a] ++ (output ++ [0x3e]) := by decide
  obtain ⟨text, mode⟩ := Telnet.textOf_of_plain plain
  let reply : Service.console.WholeReply :=
    ⟨line ++ [0x0a] ++ (output ++ [0x3e]) ++ [0x20], output, .console text mode (by decide) whole⟩
  let script : List Piece := [.failure "timed out", .octets own.octets, .octets own'.octets]
  let t : TclServer ScriptedStream := .ofStream { incoming := script } {} fun _ => .error .ended
  let c : Console ScriptedStream :=
    .ofStream { incoming := [.octets reply.octets] } {} fun _ => .error .ended
  have first : Service.tcl.value [0x30, 0x78, 0x33, 0x38, 0x32] = .ok 0x382 := rfl
  have second : Service.tcl.value [0x30, 0x78, 0x38, 0x33] = .ok 0x83 := rfl
  have waiting : t.Awaits ScriptedStream.Holds (Service.octetsOf [own, own']) :=
    ⟨_, rfl, _, ⟨rfl, rfl, nofun⟩, rfl⟩
  have waiting' : c.Awaits ScriptedStream.Holds (Service.octetsOf [reply]) :=
    ⟨_, rfl, _, ⟨rfl, rfl, nofun⟩, rfl⟩
  have stale : ((Bus.readEach [.dmstatus, .abstractcs]).exec t).1 =
      .ok [.error (.transport .receive (.reported "timed out")), own.value] :=
    TclServer.stale_after_failure own own' "timed out" .dmstatus .abstractcs {} fun _ => .error .ended
  have own_value : own.value = .ok 0x382 := first
  rw [own_value] at stale
  obtain ⟨outcomes, ran, exchanges, -⟩ :=
    (answers_of_interrupted_reads ScriptedStream.carries [.dmstatus, .abstractcs]).2 t [own, own'] rfl waiting
  obtain ⟨outcomes', ran', exchanges', -⟩ :=
    (answers_of_interrupted_reads ScriptedStream.carries [.dmstatus]).1 c [reply] rfl waiting'
  obtain rfl := Except.ok.inj (ran.symm.trans stale)
  exact ⟨t, own, own', c, reply, waiting, waiting', own_value, second, stale, exchanges,
    outcomes', ran', exchanges'⟩

end HartDebug
