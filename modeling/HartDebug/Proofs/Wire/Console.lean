import HartDebug.Proofs.Wire.Accesses
import HartDebug.Proofs.Wire.Exchange
import HartDebug.Wire.Console

/-!
# The console in use

A command that is sent to the console is read back as an echo, and its output up to the prompt.  What was
left unread before it comes into the echo, so it does no harm as long as no line ends in it.

* `Settled` — octets that may be left unread before a command;
* `Console.Ready` — a console that is ready for a command;
* `Console.exec_sendLine`, `Console.exec_readAnswer`, `Console.exec_execute` — a command in terms of what
  is read after it;
* `Console.read_echo`, `Console.read_output` — what is read after it, in whatever manner it is answered;
* `Console.runs_execute` — **every command is run and its output comes back**;
* `Console.refines` — **the accesses of the console are those of the module**.
-/

namespace HartDebug

/-- Octets that may be left unread before a command: no line ends in their text, and no Telnet command
has begun in them. -/
structure Settled (unread : List Byte) : Prop where
  no_line : 0x0a ∉ Telnet.textOf .text unread
  mode : Telnet.modeAfter .text unread = .text

theorem settled_nil : Settled [] :=
  ⟨List.not_mem_nil, rfl⟩

/-- **What is read up to the end of a line goes past what was left unread.** -/
theorem Settled.read_line {unread line : List Byte} (h : Settled unread) (whole : 0x0a ∉ line)
    {rest : List Byte} (plain : Telnet.interpretAsCommand ∉ line ++ [0x0a] ++ rest) :
    ∃ text, Frame.read [0x0a] true {} (unread ++ (line ++ [0x0a] ++ rest)) = (.complete text, rest) := by
  have absent : ¬ [0x0a] <:+: Telnet.textOf .text unread := fun inside =>
    h.no_line (inside.subset (List.mem_singleton_self _))
  obtain ⟨f, ran, kept, mode⟩ := Frame.read_of_absent absent
  have no_line : 0x0a ∉ f.text.reverse ++ line := by
    rw [kept, List.mem_append, not_or]
    exact ⟨h.no_line, whole⟩
  refine ⟨f.text.reverse ++ line, ?_⟩
  rw [Frame.read_append, ran]
  dsimp only
  rw [Frame.read_of_plain (mode.trans h.mode) plain]
  exact Frame.read_marker no_line rest

/-- The same where Telnet commands stand in the line or after it: what is left is the rest of the text, with
those among it. -/
theorem Settled.read_line_of_text {unread octets line rest : List Byte} (h : Settled unread)
    (text : Telnet.textOf .text octets = line ++ [0x0a] ++ rest) (whole : 0x0a ∉ line) :
    ∃ echo left, Frame.read [0x0a] true {} (unread ++ octets) = (.complete echo, left) ∧
      Telnet.textOf .text left = rest ∧
      Telnet.modeAfter .text left = Telnet.modeAfter .text octets := by
  have relation := Frame.read_telnet [0x0a] {} (unread ++ octets)
  have no_line : 0x0a ∉ (Frame.plain {}).text.reverse ++ (Telnet.textOf .text unread ++ line) := by
    simp only [Frame.plain, List.reverse_nil, List.nil_append, List.mem_append, not_or]
    exact ⟨h.no_line, whole⟩
  have first : Frame.read [0x0a] false _ _ = _ := Frame.read_marker no_line rest
  rw [show Frame.mode {} = .text from rfl, Telnet.textOf_append, Telnet.modeAfter_append, h.mode, text,
    ← List.append_assoc, ← List.append_assoc, first] at relation
  rcases ran : Frame.read [0x0a] true {} (unread ++ octets) with ⟨f | echo, left⟩
  · rw [ran] at relation
    cases relation.1
  · rw [ran] at relation
    obtain ⟨same, mode⟩ := relation
    exact ⟨echo, left, rfl, (congrArg Prod.snd same).symm, mode.symm⟩

namespace Console

/-- A console that is ready for a command, at an adapter with a given port. -/
structure Ready (c : Console Adapter) (p : AdapterPort) : Prop where
  named : IsTapName c.link.tapName
  here : p.name = Utf8.bytes c.link.tapName
  settled : ∃ connection unread, c.link.connection = some connection ∧
    connection.Between .console p unread ∧ Settled unread

variable {c : Console Adapter} {p : AdapterPort}

theorem bytes_prompt : prompt = [0x3e, 0x20] := by
  rw [prompt, Utf8.bytes_eq]
  decide

theorem prompt_ne_nil : prompt ≠ [] := by
  rw [bytes_prompt]
  decide

theorem no_line_in_prompt : 0x0a ∉ prompt := by
  rw [bytes_prompt]
  decide

/-- A text that ends in the prompt ends in it still after a part without all of its lines. -/
theorem prompt_suffix {text last : List Byte} (ends : prompt <:+ text) (rest : last <:+ text)
    (line : 0x0a ∈ last) : prompt <:+ last := by
  rcases List.suffix_or_suffix_of_suffix ends rest with inside | around
  · exact inside
  · exact absurd (around.subset line) no_line_in_prompt

/-- **Octets with a line in them and the prompt at the end hold an echo and an answer.** -/
theorem read_line_and_answer {octets : List Byte} (ends : prompt <:+ Telnet.textOf .text octets)
    (line : 0x0a ∈ Telnet.textOf .text octets) :
    ∃ echo rest answer rest', Frame.read [0x0a] true {} octets = (.complete echo, rest) ∧
      Frame.read prompt true {} rest = (.complete answer, rest') := by
  obtain ⟨front, back, lines⟩ := List.append_of_mem line
  rw [← List.singleton_append, ← List.append_assoc] at lines
  obtain ⟨echo, rest, read, whole, -, -⟩ := Frame.read_of_split (List.cons_ne_nil _ _) lines
  have last : 0x0a :: Telnet.textOf .text rest <:+ Telnet.textOf .text octets :=
    ⟨echo, by rw [whole, List.append_assoc, List.singleton_append]⟩
  have ends' : prompt <:+ Telnet.textOf .text rest := by
    rcases List.suffix_cons_iff.1 (prompt_suffix ends last List.mem_cons_self) with same | inside
    · exact absurd (same ▸ List.mem_cons_self) no_line_in_prompt
    · exact inside
  obtain ⟨front', split'⟩ := ends'
  rw [← List.append_nil (front' ++ _)] at split'
  obtain ⟨answer, rest', read', -, -, -⟩ := Frame.read_of_split prompt_ne_nil split'.symm
  exact ⟨echo, rest, answer, rest', read, read'⟩

/-- The same console on another connection. -/
def onConnection (c : Console Adapter) (connection : Connection Adapter) : Console Adapter :=
  { c with link := { c.link with connection := some connection } }

theorem exec_onConnection {α : Type} {connection connection' : Connection Adapter} {a : α}
    (h : c.link.connection = some connection) {x : Action DebugError (Connection Adapter) α}
    (ran : x.exec connection = (.ok a, connection')) :
    (onLink (Link.use x)).exec c = (.ok a, c.onConnection connection') := by
  rw [onLink, Action.exec_onPart, Link.exec_use h, ran]
  rfl

section Exchanges

variable {connection : Connection Adapter} (h : c.link.connection = some connection) {unread : List Byte}
  (between : connection.Between .console p unread)

include h between

/-- What stands before the first prompt is the answer, without its carriage returns. -/
theorem exec_readAnswer {text rest : List Byte}
    (read : Frame.read prompt true {} unread = (.complete text, rest)) :
    ∃ connection', readAnswer.exec c =
        (.ok (String.ofList ((Utf8.decode text).filter (· != '\r'))), c.onConnection connection') ∧
      connection'.Between .console p rest := by
  obtain ⟨connection', ran, between'⟩ := between.readUntil read
  refine ⟨connection', ?_, between'⟩
  rw [readAnswer, Action.exec_bind_ok (exec_onConnection h ran)]
  rfl

/-- A command is sent, and a line is read that should be its echo. -/
theorem exec_sendLine {command : String} (sendable : IsSendable command) {rest : Manner → List Byte}
    (read : ∀ m, ∃ echo,
      Frame.read [0x0a] true {} (unread ++ (Service.console.answer m p (Utf8.bytes command)).1) =
        (.complete echo, rest m)) :
    ∃ connection' m, (sendLine command).exec c = (.ok (), c.onConnection connection') ∧
      connection'.Between .console (Service.console.answer m p (Utf8.bytes command)).2 (rest m) := by
  have newline : Utf8.bytes "\n" = [0x0a] := by
    rw [Utf8.bytes_eq]
    decide
  have sent : Utf8.bytes (command ++ "\n") = Utf8.bytes command ++ [Service.console.commandEnd] := by
    rw [Utf8.bytes_append, newline]
    rfl
  have no_line : 0x0a ∉ Utf8.bytes command := sendable.octet_not_mem (c := '\n') (by decide) (by decide)
  obtain ⟨connection₁, m, ran, after⟩ := between.send no_line
  obtain ⟨echo, read_echo⟩ := read m
  obtain ⟨connection₂, read_line, between'⟩ := after.readUntil read_echo
  refine ⟨connection₂, m, ?_, between'⟩
  have exchange : (do
      Connection.send (Utf8.bytes (command ++ "\n"))
      discard (Connection.readUntil (Utf8.bytes "\n") true)).exec connection = (.ok (), connection₂) := by
    rw [sent, Action.exec_bind_ok ran, newline]
    exact Action.exec_discard_ok read_line
  rw [sendLine, Action.exec_bind_ok (Action.exec_log _ _ _ c)]
  exact exec_onConnection h exchange

/-- **A command is run**: its answer is what is read after a line, up to the first prompt. -/
theorem exec_execute {command : String} (sendable : IsSendable command)
    {after text rest : Manner → List Byte}
    (read_echo : ∀ m, ∃ echo,
      Frame.read [0x0a] true {} (unread ++ (Service.console.answer m p (Utf8.bytes command)).1) =
        (.complete echo, after m))
    (read_answer : ∀ m, Frame.read prompt true {} (after m) = (.complete (text m), rest m)) :
    ∃ connection' m, (execute command).exec c =
        (.ok (String.ofList (((Utf8.decode (text m)).filter (· != '\r')).filter (· != '\n'))),
          c.onConnection connection') ∧
      connection'.Between .console (Service.console.answer m p (Utf8.bytes command)).2 (rest m) := by
  obtain ⟨connection₁, m, sent, between₁⟩ := exec_sendLine h between sendable read_echo
  have opened : (c.onConnection connection₁).link.connection = some connection₁ := rfl
  obtain ⟨connection₂, answered, between₂⟩ := exec_readAnswer opened between₁ (read_answer m)
  refine ⟨connection₂, m, ?_, between₂⟩
  have lines : (executeLines command).exec c =
      (.ok (String.ofList ((Utf8.decode (text m)).filter (· != '\r'))), c.onConnection connection₂) := by
    rw [executeLines, Action.exec_bind_ok sent]
    exact answered
  rw [execute, Action.exec_bind_ok lines, String.toList_ofList]
  rfl

end Exchanges

/-! ### Answers in whatever manner -/

section Answers

variable {m : Manner} {command : String} {output : Output}

/-- An output is read up to the prompt after it. -/
theorem read_output (answered : output ≠ .refusal) :
    Frame.read prompt true {} ((m.wording output).map Utf8.octet ++ prompt) =
      (.complete ((m.wording output).map Utf8.octet), []) := by
  have printed := Manner.isPrinted_wording (m := m) answered
  have plain : Telnet.interpretAsCommand ∉ (m.wording output).map Utf8.octet ++ prompt := by
    rw [bytes_prompt, List.mem_append, not_or, ← Utf8.bytes_of_ascii (Manner.isAscii_of_isPrinted printed)]
    exact ⟨Utf8.max_not_mem_bytes _, by decide⟩
  have absent : 0x3e ∉ (m.wording output).map Utf8.octet :=
    Manner.octet_not_mem (c := '>') printed (by decide) (by decide)
  rw [Frame.read_of_plain rfl plain, bytes_prompt, ← List.append_nil (_ ++ [0x3e, 0x20])]
  exact Frame.read_marker absent []

/-- The echo of a command is read, with what was left unread before it. -/
theorem read_echo {unread : List Byte} (settled : Settled unread) (sendable : IsSendable command)
    (answered : output ≠ .refusal) :
    ∃ echo, Frame.read [0x0a] true {} (unread ++ m.consoleAnswer (Utf8.bytes command) output) =
      (.complete echo, (m.wording output).map Utf8.octet ++ prompt) := by
  let line := Utf8.bytes command ++ (if m.echoReturn then [0x0d] else [])
  have lines : m.consoleAnswer (Utf8.bytes command) output =
      line ++ [0x0a] ++ ((m.wording output).map Utf8.octet ++ prompt) := by
    rw [Manner.consoleAnswer, List.append_assoc, ← bytes_prompt]
  have whole : 0x0a ∉ line := by
    rw [List.mem_append, not_or]
    exact ⟨sendable.octet_not_mem (c := '\n') (by decide) (by decide), by cases m.echoReturn <;> decide⟩
  have plain : Telnet.interpretAsCommand ∉ line ++ [0x0a] ++ ((m.wording output).map Utf8.octet ++ prompt) := by
    have printed := Manner.isPrinted_wording (m := m) answered
    simp only [line, List.mem_append, not_or, bytes_prompt]
    rw [← Utf8.bytes_of_ascii (Manner.isAscii_of_isPrinted printed)]
    exact ⟨⟨⟨Utf8.max_not_mem_bytes _, by cases m.echoReturn <;> decide⟩, by decide⟩,
      Utf8.max_not_mem_bytes _, by decide⟩
  rw [lines]
  exact settled.read_line whole plain

end Answers

/-- **Every command is run and its output comes back**, on one line. -/
theorem runs_execute : Runs Ready execute := by
  intro c p command request ready understood answered
  obtain ⟨connection, unread, opened, between, settled⟩ := ready.settled
  have answer : ∀ m, Service.console.answer m p (Utf8.bytes command) =
      (m.consoleAnswer (Utf8.bytes command) (p.perform request).1, (p.perform request).2) := by
    intro m
    rw [Service.answer, AdapterPort.execute, understood.request]
  obtain ⟨connection', m, ran, between'⟩ := exec_execute opened between understood.sendable
    (fun m => by rw [answer]; exact read_echo settled understood.sendable answered)
    (fun m => read_output answered)
  have printed := Manner.isPrinted_wording (m := m) answered
  rw [answer] at between'
  refine ⟨c.onConnection connection', m, ?_, ready.named, (p.name_perform request).trans ready.here,
    connection', [], rfl, between', settled_nil⟩
  rw [ran, Utf8.decode_octets (Manner.isAscii_of_isPrinted printed), Manner.flat_wording answered]

/-- **The accesses of the console are those of the module** behind the adapter. -/
theorem refines : Transport.Refines (Over Ready) where
  write address data := runs_execute.simulates_write .console address data
  read address := runs_execute.simulates_read .console address
  writeDtmcs value := Runs.simulates_writeDtmcs runs_execute runs_execute
    (fun ready => ⟨ready.named, ready.here⟩) value
  readDtmcs := Runs.simulates_readDtmcs runs_execute runs_execute fun ready => ⟨ready.named, ready.here⟩
  readIdcode := Runs.simulates_readIdcode runs_execute runs_execute fun ready => ⟨ready.named, ready.here⟩
  resetTap := runs_execute.simulates_resetTap

end Console

end HartDebug
