import HartDebug.Proofs.Wire.Console
import HartDebug.Proofs.Wire.TclServer

/-!
# Greetings

A console greets whoever connects to it, with a text that ends in the prompt.  The greeting is read up to
its first prompt, so what stands after that is still unread when the first command is sent: harmless if it
is no whole line, and otherwise taken for the echo and the answer of the first command.

* `Link.Reaches`, `Adapter.Attends` — an adapter at the other end of a link;
* `Greets` — the greetings that the console can be used after;
* `Console.exec_connect`, `TclServer.exec_connect` — **ready for a command once connected**;
* `Console.exec_execute_early` — **a line after a prompt answers the first command**, whatever it is.
-/

namespace HartDebug

/-! ## The other end of a link -/

/-- What a link leads to when it is used: over the connection that is open, or when it is dialled. -/
def Link.Reaches (l : Link Adapter) (a : Adapter) : Prop :=
  l.connection = some { stream := a } ∨ l.connection = none ∧ l.dial l.endpoint = .ok a

/-- The module at the other end of an open link. -/
def Link.module? (l : Link Adapter) : Option SimulatedModule :=
  l.connection.map (·.stream.port.module)

/-- An adapter that has not taken anything yet, with a module behind a port of a given name. -/
structure Adapter.Attends (a : Adapter) (service : Service) (name : String) (m : SimulatedModule) : Prop where
  service : a.service = service
  name : a.port.name = Utf8.bytes name
  module : a.port.module = m
  line : a.line = []

theorem Adapter.Attends.between {a : Adapter} {service : Service} {name : String} {m : SimulatedModule}
    (h : a.Attends service name m) :
    ({ stream := a } : Connection Adapter).Between service a.port a.outgoing :=
  ⟨h.service, rfl, h.line, rfl⟩

/-- Dialling leaves the link with a connection to what it reaches. -/
theorem Link.exec_dialUnlessOpen {l : Link Adapter} {a : Adapter} (h : l.Reaches a) (source : Source)
    (service : String) :
    (dialUnlessOpen source service).exec l = (.ok (), { l with connection := some { stream := a } }) := by
  rw [dialUnlessOpen, Action.exec_bind_ok (Action.exec_get l)]
  rcases h with opened | ⟨closed, dialled⟩
  · have same : ({ l with connection := some { stream := a } } : Link Adapter) = l := by rw [← opened]
    rw [same, opened]
    rfl
  · rw [closed, dialled]
    rfl

/-! ## Greetings -/

/-- A greeting that the console can be used after: it ends in the prompt, it has finished its Telnet
commands, and no line of it ends after a prompt. -/
structure Greets (banner : List Byte) : Prop where
  ends : Console.prompt <:+ Telnet.textOf .text banner
  mode : Telnet.modeAfter .text banner = .text
  last_line : ∀ before after, Telnet.textOf .text banner = before ++ Console.prompt ++ after → 0x0a ∉ after

/-- A greeting is read up to its first prompt, and what is left of it is no line. -/
theorem Greets.read {banner : List Byte} (h : Greets banner) :
    ∃ text rest, Frame.read Console.prompt true {} banner = (.complete text, rest) ∧ Settled rest := by
  obtain ⟨before, split⟩ := h.ends
  rw [← List.append_nil (before ++ _)] at split
  obtain ⟨text, rest, read, first, -, mode⟩ := Frame.read_of_split Console.prompt_ne_nil split.symm
  exact ⟨text, rest, read, h.last_line text _ first, mode ▸ h.mode⟩

/-- The usual greeting: some text that holds no prompt, and the prompt. -/
theorem greets_of_text {text : List Byte} (plain : Telnet.interpretAsCommand ∉ text) (single : 0x3e ∉ text) :
    Greets (text ++ Console.prompt) := by
  have octets : Telnet.interpretAsCommand ∉ text ++ Console.prompt := by
    rw [List.mem_append, not_or, Console.bytes_prompt]
    exact ⟨plain, by decide⟩
  obtain ⟨as_it_stands, mode⟩ := Telnet.textOf_of_plain octets
  refine ⟨by rw [as_it_stands]; exact List.suffix_append _ _, mode, ?_⟩
  intro before after split mem
  rw [as_it_stands, List.append_assoc before, List.append_eq_append_iff] at split
  rcases split with ⟨more, -, later⟩ | ⟨more, earlier, later⟩
  · have sizes := congrArg List.length later
    have some_after := List.length_pos_of_mem mem
    simp only [List.length_append] at sizes
    omega
  · cases more with
    | nil =>
      have nothing := List.append_cancel_left (later.trans (List.append_nil Console.prompt).symm)
      rw [nothing] at mem
      cases mem
    | cons first more =>
      rw [Console.bytes_prompt] at later
      obtain rfl : 0x3e = first := (List.cons.inj later).1
      rw [earlier] at single
      exact single (List.mem_append_right _ List.mem_cons_self)

namespace Console

variable {c : Console Adapter} {a : Adapter} {m : SimulatedModule}

/-- Connecting reads the greeting up to its first prompt. -/
theorem exec_greeted (reaches : c.link.Reaches a) (attends : a.Attends .console c.link.tapName m)
    {text rest : List Byte} (read : Frame.read prompt true {} a.outgoing = (.complete text, rest)) :
    ∃ connection, (Bus.connect : Action DebugError (Console Adapter) Unit).exec c =
        (.ok (), c.onConnection connection) ∧
      connection.Between .console a.port rest := by
  have dialled : (onLink (Link.dialUnlessOpen .console "console")).exec c =
      (.ok (), c.onConnection { stream := a }) := by
    rw [onLink, Action.exec_onPart, Link.exec_dialUnlessOpen reaches]
    rfl
  have opened : (c.onConnection { stream := a }).link.connection = some { stream := a } := rfl
  obtain ⟨connection, greeted, between⟩ := exec_readAnswer opened attends.between read
  refine ⟨connection, ?_, between⟩
  show (do
    onLink (Link.dialUnlessOpen .console "console")
    discard readAnswer).exec c = _
  rw [Action.exec_bind_ok dialled]
  exact Action.exec_discard_ok greeted

/-- **The console is ready for a command once its greeting was read.** -/
theorem exec_connect (reaches : c.link.Reaches a) (named : IsTapName c.link.tapName)
    (attends : a.Attends .console c.link.tapName m) (greets : Greets a.outgoing) :
    ∃ c', (Bus.connect : Action DebugError (Console Adapter) Unit).exec c = (.ok (), c') ∧ c'.Ready a.port := by
  obtain ⟨text, rest, read, settled⟩ := greets.read
  obtain ⟨connection, ran, between⟩ := exec_greeted reaches attends read
  exact ⟨_, ran, named, attends.name, connection, rest, rfl, between, settled⟩

/-- A greeting with a line after a prompt has a prompt after that line again. -/
theorem read_line_after_prompt {banner before after : List Byte}
    (ends : prompt <:+ Telnet.textOf .text banner)
    (split : Telnet.textOf .text banner = before ++ prompt ++ after) (line : 0x0a ∈ after) :
    ∃ text rest echo rest' answer rest'',
      Frame.read prompt true {} banner = (.complete text, rest) ∧
        Frame.read [0x0a] true {} rest = (.complete echo, rest') ∧
          Frame.read prompt true {} rest' = (.complete answer, rest'') := by
  obtain ⟨text, rest, read, whole, later, -⟩ := Frame.read_of_split prompt_ne_nil split
  have line' : 0x0a ∈ Telnet.textOf .text rest := later.subset line
  have last : Telnet.textOf .text rest <:+ Telnet.textOf .text banner := ⟨text ++ prompt, whole.symm⟩
  obtain ⟨echo, rest', answer, rest'', read', read''⟩ :=
    read_line_and_answer (prompt_suffix ends last line') line'
  exact ⟨text, rest, echo, rest', answer, rest'', read, read', read''⟩

/-- **A line after a prompt answers the first command**, whatever that is and whatever the module holds: the
line is taken for the echo, and what follows it, up to the next prompt, for the answer. -/
theorem exec_execute_early {text rest echo rest' answer rest'' : List Byte}
    (reaches : c.link.Reaches a) (attends : a.Attends .console c.link.tapName m)
    (read : Frame.read prompt true {} a.outgoing = (.complete text, rest))
    (read' : Frame.read [0x0a] true {} rest = (.complete echo, rest'))
    (read'' : Frame.read prompt true {} rest' = (.complete answer, rest'')) :
    ∃ c', (Bus.connect : Action DebugError (Console Adapter) Unit).exec c = (.ok (), c') ∧
      ∀ {command : String}, IsSendable command → ∃ c'', (execute command).exec c' =
        (.ok (String.ofList (((Utf8.decode answer).filter (· != '\r')).filter (· != '\n'))), c'') := by
  obtain ⟨connection, connects, between⟩ := exec_greeted reaches attends read
  have opened : (c.onConnection connection).link.connection = some connection := rfl
  refine ⟨_, connects, fun {command} sendable => ?_⟩
  obtain ⟨connection', m, ran, -⟩ := exec_execute opened between sendable
    (fun m => ⟨echo, by rw [Frame.read_append, read']⟩) (fun m => by rw [Frame.read_append, read''])
  exact ⟨_, ran⟩

end Console

/-- The Tcl server sends no greeting and is ready for a command at once. -/
theorem TclServer.exec_connect {t : TclServer Adapter} {a : Adapter} {m : SimulatedModule}
    (reaches : t.link.Reaches a) (named : IsTapName t.link.tapName)
    (attends : a.Attends .tcl t.link.tapName m) (silent : a.outgoing = []) :
    ∃ t', (Bus.connect : Action DebugError (TclServer Adapter) Unit).exec t = (.ok (), t') ∧
      t'.Ready a.port := by
  have between := attends.between
  rw [silent] at between
  let next : TclServer Adapter := { t with link := { t.link with connection := some { stream := a } } }
  refine ⟨next, ?_, named, attends.name, { stream := a }, rfl, between⟩
  show (onLink (Link.dialUnlessOpen .tcl "Tcl server")).exec t = _
  rw [onLink, Action.exec_onPart, Link.exec_dialUnlessOpen reaches]

end HartDebug
