import HartDebug.Proofs.Wire.Greeting

/-!
# Sessions over a wire

A session over the console or over the Tcl server of an adapter does what a session on the module behind
the adapter does: from the start on, for every sequence of operations, failures included.  On the console that
takes a greeting of which no line ends after a prompt.

* `Session.opened` — a session from its start on;
* `Operation.IsOrdinary`, `IsTransparentAfter` — operations other than raw writes of commands, and a service whose
  sessions answer to them as those on the module do;
* `TclServer.isTransparent`, `Console.isTransparentAfter_of_greets` — **the Tcl server is transparent, and so is
  the console after a greeting that it can be used after**;
* `exists_misread_of_line_after_prompt` — **the other greetings do harm**: each lets the console misread some
  module;
* `wire_transparent` — **both together**.
-/

namespace HartDebug

open Action (Simulates)

/-! ## Whole sessions -/

/-- Connecting a module that is connected changes nothing. -/
theorem SimulatedModule.exec_connect (m : SimulatedModule) (connected : m.connected = true) :
    (Bus.connect : Action DebugError SimulatedModule Unit).exec m = (.ok (), m) := by
  have same : ({ m with connected := true } : SimulatedModule) = m := by rw [← connected]
  exact congrArg (Except.ok (), ·) same

namespace Session

section

variable {τ : Type} [Transport τ]

/-- A session from its start on: some operations, each with its outcome. -/
def opened (ops : List Operation) :
    Action DebugError (Session τ) (List (Except DebugError Operation.Reply)) := do
  start
  Operation.performEach ops

theorem exec_opened {t t' : τ} (connects : (Bus.connect : Action DebugError τ Unit).exec t = (.ok (), t'))
    (config : SessionConfig) (timer : Timer) (ops : List Operation) :
    (opened ops).exec (fresh t config timer) =
      (Operation.performEach ops).exec (fresh t' config timer) := by
  have reached : (onTransport Bus.connect).exec (fresh t config timer) = (.ok (), fresh t' config timer) := by
    have ran := exec_onTransport (Bus.connect : Action DebugError τ Unit) (fresh t config timer)
    rw [show (fresh t config timer).transport = t from rfl, connects] at ran
    exact ran
  have started : start.exec (fresh t config timer) = (.ok (), fresh t' config timer) := by
    rw [start, Action.exec_bind_ok reached]
    rfl
  rw [opened, Action.exec_bind_ok started]

/-- An operation that fails does not end the session. -/
theorem performEach_ok (ops : List Operation) (s : Session τ) :
    ∃ outcomes, ((Operation.performEach ops).exec s).1 = .ok outcomes := by
  induction ops generalizing s with
  | nil => exact ⟨[], rfl⟩
  | cons op rest ih =>
    obtain ⟨others, ran⟩ := ih (op.perform.exec s).2
    rw [Operation.exec_performEach_cons, ran]
    exact ⟨_, rfl⟩

end

/-- **A session over a transport that stands over the module goes as one on the module itself**, once it
has been connected. -/
theorem opened_over {τ : Type} [Transport τ] [ReadsBack τ] {Ready : τ → AdapterPort → Prop}
    (refines : Transport.Refines (Over Ready)) {t t' : τ} {p : AdapterPort} {m : SimulatedModule}
    (connects : (Bus.connect : Action DebugError τ Unit).exec t = (.ok (), t')) (ready : Ready t' p)
    (behind : p.module = m) (connected : m.connected = true) {ops : List Operation}
    (keeps : ∀ op ∈ ops, op.KeepsConnection) (config : SessionConfig) (timer : Timer) :
    ((opened ops).exec (fresh t config timer)).1 = ((opened ops).exec (fresh m config timer)).1 ∧
      Over Ready ((opened ops).exec (fresh t config timer)).2.transport
        ((opened ops).exec (fresh m config timer)).2.transport := by
  have stays := m.exec_connect connected
  have alike : Alike (Over Ready) (fresh t' config timer) (fresh m config timer) :=
    ⟨⟨connected, p, ready, behind⟩, rfl, rfl, rfl, rfl, rfl, rfl, rfl⟩
  rw [exec_opened connects, exec_opened stays]
  obtain ⟨same, after⟩ := Operation.simulates_performEach refines.agree keeps _ _ alike
  exact ⟨same, after.transport⟩

end Session

theorem Console.module?_of_over {c : Console Adapter} {m : SimulatedModule} (h : Over Ready c m) :
    c.link.module? = some m := by
  obtain ⟨-, p, ready, rfl⟩ := h
  obtain ⟨connection, unread, opened, between, -⟩ := ready.settled
  rw [Link.module?, opened, Option.map_some, between.port]

theorem TclServer.module?_of_over {t : TclServer Adapter} {m : SimulatedModule} (h : Over Ready t m) :
    t.link.module? = some m := by
  obtain ⟨-, p, ready, rfl⟩ := h
  obtain ⟨connection, opened, between⟩ := ready.nothing_left
  rw [Link.module?, opened, Option.map_some, between.port]

/-- An adapter in the usual manner that takes and gives one octet at a time. -/
def Adapter.usual (service : Service) (name : String) (m : SimulatedModule) (greeting : List Byte) :
    Adapter where
  service := service
  port := { name := Utf8.bytes name, module := m }
  manner _ := {}
  sizes _ := 0
  outgoing := greeting

/-! ## Transparency -/

namespace Operation

/-- The operation neither connects nor disconnects, and it is no raw write of a command. -/
def IsOrdinary (op : Operation) : Prop :=
  op.KeepsConnection ∧ ∀ data, op ≠ .writeDmi .command data

end Operation

/-- From its start on, a session on a transport that is a link to an adapter does what one on a module does: each
operation has an outcome, which is the same, and the module behind the adapter is left in the same state. -/
structure Session.AnswersAlike {τ : Type} [Transport τ] (link : τ → Link Adapter) (ops : List Operation)
    (config : SessionConfig) (timer : Timer) (t : τ) (m : SimulatedModule) : Prop where
  outcomes : ∃ outcomes, ((opened ops).exec (fresh t config timer)).1 = .ok outcomes ∧
    ((opened ops).exec (fresh m config timer)).1 = .ok outcomes
  module : (link ((opened ops).exec (fresh t config timer)).2.transport).module? =
    some ((opened ops).exec (fresh m config timer)).2.transport

/-- With some greeting a service is transparent: whatever module is behind it, sessions answer to ordinary
operations as those on the module do. -/
def IsTransparentAfter {τ : Type} [Transport τ] (service : Service) (link : τ → Link Adapter)
    (greeting : List Byte) : Prop :=
  ∀ ⦃m : SimulatedModule⦄, m.connected = true → ∀ ⦃ops : List Operation⦄, (∀ op ∈ ops, op.IsOrdinary) →
    ∀ ⦃t : τ⦄ ⦃a : Adapter⦄, (link t).Reaches a → IsTapName (link t).tapName →
      a.Attends service (link t).tapName m → a.outgoing = greeting →
        ∀ config timer, Session.AnswersAlike link ops config timer t m

/-- What stands over a module from the start on answers as the module does. -/
theorem Session.answersAlike_of_over {τ : Type} [Transport τ] [ReadsBack τ] {link : τ → Link Adapter}
    {Ready : τ → AdapterPort → Prop} (refines : Transport.Refines (Over Ready))
    (behind : ∀ {t m}, Over Ready t m → (link t).module? = some m) {t t' : τ} {p : AdapterPort}
    {m : SimulatedModule} (connects : (Bus.connect : Action DebugError τ Unit).exec t = (.ok (), t'))
    (ready : Ready t' p) (here : p.module = m) (connected : m.connected = true) {ops : List Operation}
    (ordinary : ∀ op ∈ ops, op.IsOrdinary) (config : SessionConfig) (timer : Timer) :
    AnswersAlike link ops config timer t m := by
  obtain ⟨same, after⟩ := opened_over refines connects ready here connected
    (fun op mem => (ordinary op mem).1) config timer
  obtain ⟨outcomes, ended⟩ := performEach_ok ops (fresh m config timer)
  rw [← exec_opened (m.exec_connect connected)] at ended
  exact ⟨⟨outcomes, same.trans ended, ended⟩, behind after⟩

/-- **The Tcl server is transparent.** -/
theorem TclServer.isTransparent : IsTransparentAfter .tcl (TclServer.link (σ := Adapter)) [] := by
  intro m connected ops ordinary t a reaches named attends silent config timer
  obtain ⟨t', connects, ready⟩ := exec_connect reaches named attends silent
  exact Session.answersAlike_of_over refines module?_of_over connects ready attends.module connected ordinary
    config timer

/-- **So is the console after a greeting that it can be used after.** -/
theorem Console.isTransparentAfter_of_greets {banner : List Byte} (greets : Greets banner) :
    IsTransparentAfter .console (Console.link (σ := Adapter)) banner := by
  intro m connected ops ordinary c a reaches named attends outgoing config timer
  obtain ⟨c', connects, ready⟩ := exec_connect reaches named attends (outgoing ▸ greets)
  exact Session.answersAlike_of_over refines module?_of_over connects ready attends.module connected ordinary
    config timer

/-! ## Greetings with a line after a prompt -/

/-- What a session makes of an answer to a read. -/
def readingOf (answer : String) : Except DebugError Word :=
  if Reply.failed answer then .error (.adapterFailure answer) else Reply.word answer

theorem exec_readingOf {σ : Type} (source : Source) (answer : String) (s : σ) :
    (do
      let answer ← Reply.unlessFailed source answer
      Action.ofExcept (Reply.word answer) : Action DebugError σ Word).exec s = (readingOf answer, s) := by
  rw [Reply.unlessFailed, readingOf]
  split
  · rw [Action.exec_bind_error (exec_failLogged _ _ s)]
  · rw [Action.exec_bind_ok (Action.exec_pure answer s), Action.exec_ofExcept]

namespace Session

variable {τ : Type} [Transport τ]

/-- A session that reads one register of the bus. -/
theorem exec_opened_readDmi {t t' : τ}
    (connects : (Bus.connect : Action DebugError τ Unit).exec t = (.ok (), t')) (config : SessionConfig)
    (timer : Timer) (address : BusAddress) :
    ((opened [.readDmi address]).exec (fresh t config timer)).1 =
      .ok [((Bus.read address : Action DebugError τ Word).exec t').1.map .word] := by
  have read : ((Operation.readDmi address).perform.exec (fresh t' config timer)).1 =
      ((Bus.read address : Action DebugError τ Word).exec t').1.map .word := by
    rw [Operation.perform, Action.exec_map, readDmi, Action.exec_bind, exec_onTransport,
      show (fresh t' config timer).transport = t' from rfl]
    generalize (Bus.read address : Action DebugError τ Word).exec t' = ran
    obtain ⟨outcome, t''⟩ := ran
    cases outcome <;> rfl
  rw [exec_opened connects, Operation.performEach, Action.exec_bind_ok (Action.exec_attempt _ _), read]
  rfl

end Session

/-- A read of a register of a connected module. -/
theorem SimulatedModule.exec_opened_readDmi {m : SimulatedModule} (connected : m.connected = true)
    (config : SessionConfig) (timer : Timer) (address : BusAddress) :
    ((Session.opened [.readDmi address]).exec (Session.fresh m config timer)).1 =
      .ok [.ok (.word (m.readBus address).1)] := by
  rw [Session.exec_opened_readDmi (m.exec_connect connected), Session.exec_readBus connected]
  rfl

namespace Console

variable {c : Console Adapter} {a : Adapter} {m : SimulatedModule}

/-- **After a greeting with a line after a prompt the first read is answered out of the greeting.** -/
theorem exec_opened_readDmi {text rest echo rest' answer rest'' : List Byte}
    (reaches : c.link.Reaches a) (attends : a.Attends .console c.link.tapName m)
    (read : Frame.read prompt true {} a.outgoing = (.complete text, rest))
    (read' : Frame.read [0x0a] true {} rest = (.complete echo, rest'))
    (read'' : Frame.read prompt true {} rest' = (.complete answer, rest'')) (config : SessionConfig)
    (timer : Timer) (address : BusAddress) :
    ((Session.opened [.readDmi address]).exec (Session.fresh c config timer)).1 =
      .ok [(readingOf (String.ofList
        (((Utf8.decode answer).filter (· != '\r')).filter (· != '\n')))).map .word] := by
  obtain ⟨c', connects, early⟩ := exec_execute_early reaches attends read read' read''
  obtain ⟨c'', ran⟩ := early (a.port.understands_read address).sendable
  rw [Session.exec_opened_readDmi connects]
  generalize String.ofList (((Utf8.decode answer).filter (· != '\r')).filter (· != '\n')) = reply at ran
  have body : ((Bus.read address : Action DebugError (Console Adapter) Word).exec c').1 = readingOf reply := by
    show ((do
      let answer ← execute s!"riscv dmi_read {Hex.text address.toNat}"
      let answer ← Reply.unlessFailed .console answer
      Action.ofExcept (Reply.word answer)).exec c').1 = _
    rw [Action.exec_bind_ok ran, exec_readingOf]
  rw [body]

end Console

open Session in
/-- **No other greeting will do**: with a line after a prompt of the greeting there is a module of which the
console reads a register wrongly. -/
theorem exists_misread_of_line_after_prompt {banner before after : List Byte}
    (ends : Console.prompt <:+ Telnet.textOf .text banner)
    (split : Telnet.textOf .text banner = before ++ Console.prompt ++ after) (line : 0x0a ∈ after) :
    ∃ m : SimulatedModule, m.connected = true ∧
      ∀ {c : Console Adapter} {a : Adapter}, c.link.Reaches a → a.Attends .console c.link.tapName m →
        a.outgoing = banner → ∀ config timer,
          ((opened [.readDmi .data0]).exec (fresh c config timer)).1 ≠
            ((opened [.readDmi .data0]).exec (fresh m config timer)).1 := by
  obtain ⟨text, rest, echo, rest', answer, rest'', read, read', read''⟩ :=
    Console.read_line_after_prompt ends split line
  -- The answer is in the greeting, so a module that holds anything else in the register is misread.
  obtain ⟨w, other⟩ : ∃ w, readingOf (String.ofList
      (((Utf8.decode answer).filter (· != '\r')).filter (· != '\n'))) ≠ .ok w := by
    by_cases zero : readingOf (String.ofList
        (((Utf8.decode answer).filter (· != '\r')).filter (· != '\n'))) = .ok 0
    · exact ⟨1, by rw [zero]; nofun⟩
    · exact ⟨0, zero⟩
  refine ⟨{ connected := true, data := .replicate 4 w }, rfl, ?_⟩
  intro c a reaches attends outgoing config timer
  rw [← outgoing] at read
  rw [Console.exec_opened_readDmi reaches attends read read' read'',
    SimulatedModule.exec_opened_readDmi rfl]
  intro same
  have misread := (List.cons.inj (Except.ok.inj same)).1
  have held : (({ connected := true, data := .replicate 4 w } : SimulatedModule).readBus .data0).1 = w := rfl
  rw [held] at misread
  generalize readingOf _ = reading at other misread
  cases reading with
  | error e => cases misread
  | ok value =>
    cases misread
    exact other rfl

/-- A read of a register is an ordinary operation. -/
theorem Operation.isOrdinary_readDmi (address : BusAddress) : (readDmi address).IsOrdinary :=
  ⟨by constructor <;> nofun, nofun⟩

/-- After such a greeting the console is not transparent. -/
theorem Console.not_isTransparentAfter {banner before after : List Byte}
    (ends : prompt <:+ Telnet.textOf .text banner)
    (split : Telnet.textOf .text banner = before ++ prompt ++ after) (line : 0x0a ∈ after) :
    ¬ IsTransparentAfter .console (Console.link (σ := Adapter)) banner := by
  intro transparent
  obtain ⟨m, connected, misread⟩ := exists_misread_of_line_after_prompt ends split line
  let a := Adapter.usual .console "riscv.cpu" m banner
  let c := Console.ofStream a {} fun _ => .error .ended
  have reaches : c.link.Reaches a := .inl rfl
  have named : IsTapName "riscv.cpu" := isTapName_of_alphanum (by decide)
  have attends : a.Attends .console c.link.tapName m := ⟨rfl, rfl, rfl, rfl⟩
  have alike := transparent connected
    (List.forall_mem_singleton.2 (Operation.isOrdinary_readDmi .data0)) reaches named attends rfl {}
    { clock := .steady 1 Nat.one_pos }
  obtain ⟨outcomes, over_wire, on_module⟩ := alike.outcomes
  exact misread reaches attends rfl {} _ (over_wire.trans on_module.symm)

/-- A greeting in which the prompt stands on a line of its own before it stands at the end. -/
theorem Console.textOf_prompt_twice :
    let twice := Utf8.bytes "Open On-Chip Debugger\r\n> \r\n> "
    Telnet.textOf .text twice =
        "Open On-Chip Debugger\r\n".toList.flatMap String.utf8EncodeChar ++ prompt ++ [0x0d, 0x0a, 0x3e, 0x20] ∧
      prompt <:+ Telnet.textOf .text twice ∧ Telnet.modeAfter .text twice = .text := by
  intro twice
  have octets : twice = "Open On-Chip Debugger\r\n> \r\n> ".toList.flatMap String.utf8EncodeChar :=
    Utf8.bytes_eq _
  have plain : Telnet.interpretAsCommand ∉ twice := by
    rw [octets]
    decide
  obtain ⟨as_it_stands, finished⟩ := Telnet.textOf_of_plain plain
  rw [as_it_stands, octets, bytes_prompt]
  exact ⟨by decide, ⟨"Open On-Chip Debugger\r\n> \r\n".toList.flatMap String.utf8EncodeChar, by decide⟩,
    octets ▸ finished⟩

open Session in
/-- After that greeting the first read of a register is answered out of the greeting. -/
theorem misread_after_prompt_twice :
    let m : SimulatedModule := { connected := true }
    let a := Adapter.usual .console "riscv.cpu" m (Utf8.bytes "Open On-Chip Debugger\r\n> \r\n> ")
    let c := Console.ofStream a {} fun _ => .error .ended
    let timer : Timer := { clock := .steady 1 (by decide) }
    ((opened [.readDmi .dmstatus]).exec (fresh m {} timer)).1 = .ok [.ok (.word 0xc82)] ∧
      ((opened [.readDmi .dmstatus]).exec (fresh c {} timer)).1 =
        .ok [.error (.protocol (.notHexadecimal ""))] := by
  intro m a c timer
  have reaches : c.link.Reaches a := .inl rfl
  have attends : a.Attends .console c.link.tapName m := ⟨rfl, rfl, rfl, rfl⟩
  have octets : a.outgoing =
      "Open On-Chip Debugger\r\n> \r\n> ".toList.flatMap String.utf8EncodeChar := Utf8.bytes_eq _
  have read : Frame.read Console.prompt true {} a.outgoing =
      (.complete ("Open On-Chip Debugger\r\n".toList.flatMap String.utf8EncodeChar),
        [0x0d, 0x0a, 0x3e, 0x20]) := by
    rw [octets, Console.bytes_prompt]
    decide
  have read' : Frame.read [0x0a] true {} [0x0d, 0x0a, 0x3e, 0x20] = (.complete [0x0d], [0x3e, 0x20]) := by
    decide
  have read'' : Frame.read Console.prompt true {} [0x3e, 0x20] = (.complete [], []) := by
    rw [Console.bytes_prompt]
    decide
  constructor
  · have status : (m.readBus .dmstatus).1 = 0xc82 := by decide
    rw [SimulatedModule.exec_opened_readDmi rfl, status]
  · rw [Console.exec_opened_readDmi reaches attends read read' read'']
    rfl

/-- **Sessions over a wire and on the module answer alike**: over the Tcl server, and over the console after
exactly those greetings of which no line ends after a prompt.  A greeting ends in the prompt and has finished its
Telnet commands. -/
theorem wire_transparent {banner : List Byte} (ends : Console.prompt <:+ Telnet.textOf .text banner)
    (finished : Telnet.modeAfter .text banner = .text) :
    IsTransparentAfter .tcl (TclServer.link (σ := Adapter)) [] ∧
      (IsTransparentAfter .console (Console.link (σ := Adapter)) banner ↔
        ∀ before after, Telnet.textOf .text banner = before ++ Console.prompt ++ after → 0x0a ∉ after) := by
  refine ⟨TclServer.isTransparent, fun transparent before after split line => ?_,
    fun last_line => Console.isTransparentAfter_of_greets ⟨ends, finished, last_line⟩⟩
  exact Console.not_isTransparentAfter ends split line transparent

open Session in
/-- A session with failures among its operations, over the Tcl server and over the console after the usual
greeting; and a greeting in which the prompt stands on a line of its own before it stands at the end, after which
a register is misread. -/
theorem wire_transparent_while_halting :
    let m : SimulatedModule := { connected := true, busyReads := 2 }
    let ops : List Operation :=
      [.activateDm, .halt, .writeRegister "sp" 0x100000005 none, .readRegister "X2" none, .readIdcode,
        .expectIdcode 0, .writeDmi .data0 0xffffffff, .readRegister "X99" none, .diagnose, .resetTap]
    let a := Adapter.usual .console "riscv.cpu" m (Utf8.bytes "Open On-Chip Debugger\r\n" ++ Console.prompt)
    let b := Adapter.usual .tcl "riscv.cpu" m []
    let c := Console.ofStream a {} fun _ => .error .ended
    let t := TclServer.forConfig {} fun _ => .ok b
    let timer : Timer := { clock := .steady 1 (by decide) }
    let twice := Utf8.bytes "Open On-Chip Debugger\r\n> \r\n> "
    let idle : SimulatedModule := { connected := true }
    let misled := Console.ofStream (Adapter.usual .console "riscv.cpu" idle twice) {} fun _ => .error .ended
    m.connected = true ∧ (∀ op ∈ ops, op.IsOrdinary) ∧
      AnswersAlike (·.link) ops {} timer c m ∧ AnswersAlike (·.link) ops {} timer t m ∧
      ¬ IsTransparentAfter .console (Console.link (σ := Adapter)) twice ∧
      ((opened [.readDmi .dmstatus]).exec (fresh idle {} timer)).1 = .ok [.ok (.word 0xc82)] ∧
      ((opened [.readDmi .dmstatus]).exec (fresh misled {} timer)).1 =
        .ok [.error (.protocol (.notHexadecimal ""))] := by
  intro m ops a b c t timer twice idle misled
  have apart : BusAddress.data0 ≠ .command := by decide
  have ordinary : ∀ op ∈ ops, op.IsOrdinary := by
    simp [ops, Operation.IsOrdinary, Operation.KeepsConnection, apart]
  have named : IsTapName "riscv.cpu" := isTapName_of_alphanum (by decide)
  have plain : Telnet.interpretAsCommand ∉ Utf8.bytes "Open On-Chip Debugger\r\n" := by
    rw [Utf8.bytes_eq]
    decide
  have single : 0x3e ∉ Utf8.bytes "Open On-Chip Debugger\r\n" := by
    rw [Utf8.bytes_eq]
    decide
  have greets : Greets a.outgoing := greets_of_text plain single
  obtain ⟨over_tcl, over_console⟩ := wire_transparent greets.ends greets.mode
  have reaches : c.link.Reaches a := .inl rfl
  have dials : t.link.Reaches b := .inr ⟨rfl, rfl⟩
  obtain ⟨split, ends, finished⟩ := Console.textOf_prompt_twice
  have harmful := (wire_transparent ends finished).2.1
  have misread := misread_after_prompt_twice
  refine ⟨rfl, ordinary, ?_, ?_, fun transparent => ?_, misread.1, misread.2⟩
  · exact over_console.2 greets.last_line rfl ordinary reaches named ⟨rfl, rfl, rfl, rfl⟩ rfl {} timer
  · exact over_tcl rfl ordinary dials named ⟨rfl, rfl, rfl, rfl⟩ rfl {} timer
  · exact harmful transparent _ _ split (by decide)

end HartDebug
