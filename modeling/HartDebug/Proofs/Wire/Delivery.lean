import HartDebug.Proofs.Wire.Replies

/-!
# Exchanges over streams that deliver

A stream that delivers brings the octets that it holds, in pieces of any size but none of them empty, and
takes whatever it is offered, in pieces of any size.  Over such a stream a command and its reply are one
exchange: the command is sent as a whole, its reply is read as a whole, and what comes after the reply is
left to be read.

* `ByteStream.Delivers`, `ScriptedStream.delivers` — streams that deliver, such as scripts without failures;
* `Connection.Stands` — what has been sent over a connection, and what is left to be read on it;
* `Connection.yields_send`, `Connection.yields_readUntil` — **sending and reading**;
* `Service.line`, `Service.text` — what is sent for a command, and the text that is made of a reply;
* `Console.yields_connect` — the greeting of the console;
* `Console.yields_executeLines`, `Console.yields_execute`, `TclServer.yields_send`,
  `TclServer.yields_capture` — **one exchange**.
-/

namespace HartDebug

open Action (Yields)

/-! ## Streams -/

/-- A stream that brings octets, as `holds` says: while any are left a read brings some of them.  Of whatever
it is offered it takes some. -/
structure ByteStream.Delivers {σ : Type} [ByteStream σ] (holds : List Byte → σ → Prop) : Prop where
  received : ∀ {b octets s}, holds (b :: octets) s → ∃ piece rest s',
    ByteStream.receive s = (.ok (b :: piece), s') ∧ octets = piece ++ rest ∧ holds rest s'
  taken : ∀ {octets} (b bytes) {s}, holds octets s →
    ∃ n s', ByteStream.offer (b :: bytes) s = (.ok (n + 1), s') ∧ holds octets s'

namespace ScriptedStream

/-- A script without failures, whose pieces are not empty and bring some octets, of a stream that takes
everything. -/
structure Brings (octets : List Byte) (s : ScriptedStream) : Prop where
  pieces : ∃ pieces : List (List Byte), s.incoming = pieces.map .octets ∧ [] ∉ pieces ∧
    pieces.flatten = octets
  room : s.room = none
  most : s.most ≠ some 0

/-- **Such a script delivers**, wherever its pieces are cut. -/
theorem delivers : ByteStream.Delivers Brings where
  received {b octets s} brings := by
    obtain ⟨⟨pieces, script, some_octets, split⟩, room, most⟩ := brings
    cases pieces with
    | nil => cases split
    | cons piece pieces =>
      rw [List.mem_cons, not_or] at some_octets
      obtain ⟨first, piece, rfl⟩ := List.exists_cons_of_ne_nil (Ne.symm some_octets.1)
      rw [List.flatten_cons, List.cons_append] at split
      obtain ⟨rfl, rfl⟩ := List.cons.inj split
      refine ⟨piece, pieces.flatten, { s with incoming := pieces.map .octets }, ?_, rfl,
        ⟨pieces, rfl, some_octets.2, rfl⟩, room, most⟩
      show s.receive = _
      rw [receive, script]
      rfl
  taken {octets} b bytes {s} brings := by
    obtain ⟨n, offered⟩ := exists_offer brings.room brings.most b bytes
    exact ⟨n, s, offered, brings⟩

end ScriptedStream

variable {σ : Type} [ByteStream σ] {holds : List Byte → σ → Prop} {sent unread : List Byte}

/-! ## Connections -/

namespace Connection

/-- A connection that has sent some octets, and on which others are left to be read: they have come or are
about to come. -/
structure Stands (holds : List Byte → σ → Prop) (sent unread : List Byte) (c : Connection σ) : Prop where
  sent : c.sent = sent
  unread : ∃ coming, holds coming c.stream ∧ c.buffer ++ coming = unread

/-- The next octet is the first of those that are left. -/
theorem Stands.nextByte (delivers : ByteStream.Delivers holds) {b : Byte} {rest : List Byte}
    {c : Connection σ} (stands : Stands holds sent (b :: rest) c) :
    ∃ c', nextByte.exec c = (.ok b, c') ∧ Stands holds sent rest c' := by
  obtain ⟨sent_here, coming, held, left⟩ := stands
  unfold Connection.nextByte
  rw [Action.exec_bind_ok (Action.exec_get c)]
  cases buffered : c.buffer with
  | cons first more =>
    rw [buffered, List.cons_append] at left
    obtain ⟨rfl, rest_eq⟩ := List.cons.inj left
    exact ⟨{ c with buffer := more }, rfl, sent_here, coming, held, rest_eq⟩
  | nil =>
    rw [buffered, List.nil_append] at left
    obtain ⟨piece, coming', s', received, split, held'⟩ := delivers.received (left ▸ held)
    dsimp only
    rw [received]
    exact ⟨{ c with stream := s', buffer := piece }, rfl, sent_here, coming', held', split.symm⟩

/-- **Octets are sent as a whole**, and what is to be read is left alone. -/
theorem yields_send (delivers : ByteStream.Delivers holds) (octets : List Byte) :
    Yields (Stands holds sent unread) (send octets) (.ok ()) (Stands holds (sent ++ octets) unread) := by
  rintro c ⟨rfl, coming, held, left⟩
  obtain ⟨s', ran, held'⟩ := exec_sendAll_of_taken delivers.taken octets held
  refine ⟨{ c with stream := s', sent := c.sent ++ octets }, ?_, rfl, coming, held', left⟩
  rw [send, Action.exec_bind_ok (Action.exec_log _ _ _ c)]
  exact ran

/-- **What stands before the marker is read**, and what comes after it is left. -/
theorem yields_readUntil (delivers : ByteStream.Delivers holds) {marker text rest : List Byte}
    {telnet : Bool} (read : Frame.read? marker telnet unread = some (text, rest)) :
    Yields (Stands holds sent unread) (readUntil marker telnet) (.ok text) (Stands holds sent rest) :=
  fun _ stands => exec_readUntil_of_next (P := Stands holds sent) (fun here => here.nextByte delivers)
    stands (Frame.read?_eq_some.1 read)

end Connection

/-- A link with a tap name, over whose connection some octets were sent, and on which others are left. -/
def Link.Stands (holds : List Byte → σ → Prop) (tap : String) (sent unread : List Byte) (l : Link σ) :
    Prop :=
  l.tapName = tap ∧ ∃ connection, l.connection = some connection ∧
    connection.Stands holds sent unread

omit [ByteStream σ] in
theorem Link.yields_use {α : Type} {x : Action DebugError (Connection σ) α}
    {outcome : Except DebugError α} {sent' unread' : List Byte}
    (h : Yields (Connection.Stands holds sent unread) x outcome (Connection.Stands holds sent' unread'))
    (tap : String) :
    Yields (Stands holds tap sent unread) (use x) outcome (Stands holds tap sent' unread') := by
  rintro l ⟨named, connection, opened, stands⟩
  obtain ⟨connection', ran, stands'⟩ := h connection stands
  refine ⟨{ l with connection := some connection' }, ?_, named, connection', rfl, stands'⟩
  rw [exec_use opened, ran]

omit [ByteStream σ] in
/-- A link that is open is not dialled. -/
theorem Link.yields_dialUnlessOpen (tap : String) (source : Source) (service : String) :
    Yields (Stands holds tap sent unread) (dialUnlessOpen source service) (.ok ())
      (Stands holds tap sent unread) := by
  rintro l ⟨named, connection, opened, stands⟩
  refine ⟨l, ?_, named, connection, opened, stands⟩
  rw [dialUnlessOpen, Action.exec_bind_ok (Action.exec_get l), opened]
  rfl

/-! ## Exchanges -/

/-- A command, of one of the two kinds there are. -/
inductive Exchange where
  /-- A command whose reply is wanted as it stands. -/
  | plain (command : String)
  /-- A command whose output is wanted on its own. -/
  | printed (command : String)
  deriving DecidableEq, Repr

namespace Service

variable {service : Service}

/-- What is sent for a command.  The Tcl server is asked to capture an output that is wanted on its own. -/
def line : Service → Exchange → List Byte
  | .console, .plain command => Utf8.bytes (command ++ "\n")
  | .console, .printed command => Utf8.bytes (command ++ "\n")
  | .tcl, .plain command => Utf8.bytes command ++ [TclServer.endMark]
  | .tcl, .printed command =>
    Utf8.bytes ("capture \"" ++ String.ofList (Tcl.quoteBody command.toList) ++ "\"") ++
      [TclServer.endMark]

/-- The text that is made of a reply as it stands. -/
def text : Service → List Byte → String
  | .console, body => String.ofList ((Utf8.decode body).filter (· != '\r'))
  | .tcl, body => Text.trimEnd (Utf8.text body)

/-- A reply is read as a whole, and what comes after it is left. -/
theorem WholeReply.body?_append (reply : service.WholeReply) (rest : List Byte) :
    service.body? (reply.octets ++ rest) = some (reply.body, rest) := by
  have nothing : service.Harmless [] := by
    cases service with
    | console => exact settled_nil
    | tcl => rfl
  exact (body?_takesFront service).append (nothing.body? reply.framed) rest

/-- On the console, a line without a Telnet command, an answer without the prompt, and the prompt. -/
theorem frames_of_plain {echo body : List Byte} (line : 0x0a ∉ echo)
    (plain : Telnet.interpretAsCommand ∉ echo ++ body) (whole : ¬ Console.prompt <:+: body) :
    Service.console.Frames (echo ++ [0x0a] ++ body ++ Console.prompt) body := by
  have plain' : Telnet.interpretAsCommand ∉ echo ++ [0x0a] ++ (body ++ [0x3e]) := by
    rw [List.mem_append, not_or] at plain
    simp only [List.mem_append, not_or]
    exact ⟨⟨plain.1, by decide⟩, plain.2, by decide⟩
  obtain ⟨text, mode⟩ := Telnet.textOf_of_plain plain'
  have absent : ¬ Console.prompt <:+: body ++ [0x3e] := by
    rintro ⟨before, after, split⟩
    rcases List.eq_nil_or_concat after with rfl | ⟨after, last, rfl⟩
    · -- The prompt ends in a blank.
      rw [List.append_nil, Console.bytes_prompt, List.append_cons] at split
      cases List.append_inj_right' split rfl
    · rw [List.concat_eq_append, ← List.append_assoc] at split
      exact whole ⟨before, after, List.append_inj_left' split rfl⟩
  have framed := Frames.console text mode line absent
  rw [Console.bytes_prompt]
  simpa using framed

/-- A reply of the console, without Telnet commands: a line that repeats the command, and an answer. -/
def WholeReply.lined (echo answer : List Byte) (line : 0x0a ∉ echo)
    (plain : Telnet.interpretAsCommand ∉ echo ++ answer) (whole : ¬ Console.prompt <:+: answer) :
    Service.console.WholeReply :=
  ⟨echo ++ [0x0a] ++ answer ++ Console.prompt, answer, frames_of_plain line plain whole⟩

/-- A reply of the Tcl server: an answer. -/
def WholeReply.marked (answer : List Byte) (whole : TclServer.endMark ∉ answer) :
    Service.tcl.WholeReply :=
  ⟨answer ++ [TclServer.endMark], answer, .tcl whole⟩

end Service

namespace Console

/-- A console with a tap name, over whose connection some octets were sent, and on which others are left. -/
def Stands (holds : List Byte → σ → Prop) (tap : String) (sent unread : List Byte) (c : Console σ) :
    Prop :=
  c.link.Stands holds tap sent unread

omit [ByteStream σ] in
theorem yields_onLink {α : Type} {x : Action DebugError (Connection σ) α} {outcome : Except DebugError α}
    {sent' unread' : List Byte}
    (h : Yields (Connection.Stands holds sent unread) x outcome (Connection.Stands holds sent' unread'))
    (tap : String) :
    Yields (Stands holds tap sent unread) (onLink (Link.use x)) outcome
      (Stands holds tap sent' unread') :=
  .onPart (fun _ _ => rfl) (Link.yields_use h tap)

variable (delivers : ByteStream.Delivers holds) (tap : String) {body rest : List Byte}

include delivers

/-- An answer is read as a whole. -/
theorem yields_readAnswer (read : Frame.read? prompt true unread = some (body, rest)) :
    Yields (Stands holds tap sent unread) readAnswer (.ok (Service.console.text body))
      (Stands holds tap sent rest) :=
  (yields_onLink (Connection.yields_readUntil delivers read) tap).map _

/-- A console over a stream that is open already reads the greeting when it is connected. -/
theorem yields_connect (greeting : Frame.read? prompt true unread = some (body, rest)) :
    Yields (Stands holds tap sent unread) Bus.connect (.ok ()) (Stands holds tap sent rest) := by
  have stays : Yields (Stands holds tap sent unread) (onLink (Link.dialUnlessOpen .console "console"))
      (.ok ()) (Stands holds tap sent unread) :=
    .onPart (fun _ _ => rfl) (Link.yields_dialUnlessOpen tap .console "console")
  exact stays.bind ((yields_readAnswer delivers tap greeting).map _)

variable (command : String) (taken : Service.console.body? unread = some (body, rest))

include taken

/-- **One exchange**, with the lines of the reply. -/
theorem yields_executeLines :
    Yields (Stands holds tap sent unread) (executeLines command) (.ok (Service.console.text body))
      (Stands holds tap (sent ++ Service.console.line (.plain command)) rest) := by
  obtain ⟨⟨echo, between⟩, read_echo, read_body⟩ := Option.bind_eq_some_iff.1 taken
  have newline : Utf8.bytes "\n" = [0x0a] := by
    rw [Utf8.bytes_eq]
    decide
  have line : Yields (Connection.Stands holds sent unread) (do
      Connection.send (σ := σ) (Utf8.bytes (command ++ "\n"))
      discard (Connection.readUntil [0x0a] true)) (.ok ())
        (Connection.Stands holds (sent ++ Utf8.bytes (command ++ "\n")) between) :=
    (Connection.yields_send delivers _).bind ((Connection.yields_readUntil delivers read_echo).map _)
  have sending : Yields (Stands holds tap sent unread) (sendLine command) (.ok ())
      (Stands holds tap (sent ++ Utf8.bytes (command ++ "\n")) between) := by
    rw [sendLine, newline]
    exact .bind (.log _ _ _) (yields_onLink line tap)
  exact sending.bind (yields_readAnswer delivers tap read_body)

/-- **One exchange**, with the reply on one line. -/
theorem yields_execute :
    Yields (Stands holds tap sent unread) (execute command) (.ok (Service.console.wording body))
      (Stands holds tap (sent ++ Service.console.line (.printed command)) rest) := by
  have flat : String.ofList ((Service.console.text body).toList.filter (· != '\n')) =
      Service.console.wording body := by
    rw [Service.text, String.toList_ofList]
    rfl
  rw [← flat]
  exact (yields_executeLines delivers tap command taken).map _

end Console

namespace TclServer

/-- A session with a tap name, over whose connection some octets were sent, and on which others are left. -/
def Stands (holds : List Byte → σ → Prop) (tap : String) (sent unread : List Byte) (t : TclServer σ) :
    Prop :=
  t.link.Stands holds tap sent unread

variable (delivers : ByteStream.Delivers holds) (tap : String) (command : String) {body rest : List Byte}
  (taken : Service.tcl.body? unread = some (body, rest))

include delivers taken

/-- **One exchange**, with the reply as it stands. -/
theorem yields_send :
    Yields (Stands holds tap sent unread) (send command) (.ok (Service.tcl.text body))
      (Stands holds tap (sent ++ Service.tcl.line (.plain command)) rest) := by
  have exchange : Yields (Connection.Stands holds sent unread) (do
      Connection.send (σ := σ) (Utf8.bytes command ++ [endMark])
      let reply ← Connection.readUntil [endMark] false
      pure (Text.trimEnd (Utf8.text reply))) (.ok (Service.tcl.text body))
        (Connection.Stands holds (sent ++ (Utf8.bytes command ++ [endMark])) rest) :=
    (Connection.yields_send delivers _).bind ((Connection.yields_readUntil delivers taken).map _)
  exact .bind (.log _ _ _) (.onPart (fun _ _ => rfl) (Link.yields_use exchange tap))

/-- **One exchange**, with what the command prints. -/
theorem yields_capture :
    Yields (Stands holds tap sent unread) (capture command) (.ok (Service.tcl.wording body))
      (Stands holds tap (sent ++ Service.tcl.line (.printed command)) rest) :=
  (yields_send delivers tap _ taken).map Tcl.unwrapBraces

end TclServer

end HartDebug
