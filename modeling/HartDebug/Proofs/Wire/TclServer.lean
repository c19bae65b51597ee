import HartDebug.Proofs.Wire.Accesses
import HartDebug.Proofs.Wire.Exchange
import HartDebug.Wire.Tcl
import Mathlib.Data.List.Basic

/-!
# The Tcl server in use

A command that prints something is sent as the quoted argument of another, which captures what it prints.
The commands of a session need no quoting, so the server finds in the quotes what was put there.

* `Service.captured?_quoted`, `Service.captured?_of_sendable` — what is captured;
* `TclServer.Ready` — a server that is ready for a command;
* `TclServer.runs_send`, `TclServer.runs_capture` — **every command is run and its output comes back**;
* `TclServer.refines` — **the accesses of the server are those of the module**.
-/

namespace HartDebug

/-! ## What is captured -/

namespace Service

theorem unquoted_of_plain {octets : List Byte} (h : 0x5c ∉ octets) : unquoted octets = octets := by
  fun_induction unquoted octets with
  | case1 b rest ih => exact absurd List.mem_cons_self h
  | case2 b rest _ ih => rw [ih fun mem => h (List.mem_cons_of_mem _ mem)]
  | case3 => rfl

theorem quote_mem_capture : 0x22 ∈ Utf8.bytes "capture \"" := by
  rw [Utf8.bytes_eq]
  decide

variable {command : String} (h : IsSendable command)

include h

/-- **A command in quotes is captured as it is.** -/
theorem captured?_quoted :
    captured? (Utf8.bytes ("capture \"" ++ command ++ "\"")) = some (Utf8.bytes command) := by
  have quote : Utf8.bytes "\"" = [0x22] := by
    rw [Utf8.bytes_eq]
    decide
  have plain : 0x5c ∉ Utf8.bytes command := h.octet_not_mem (c := '\\') (by decide) (by decide)
  rw [captured?, Utf8.bytes_append, Utf8.bytes_append, List.append_assoc,
    List.isPrefixOf?_eq_some_iff_append_eq.2 rfl, quote]
  dsimp only
  rw [List.getLast?_concat, if_pos rfl, List.dropLast_concat, unquoted_of_plain plain]

/-- A command without quotes asks for no capture. -/
theorem captured?_of_sendable : captured? (Utf8.bytes command) = none := by
  have plain : 0x22 ∉ Utf8.bytes command := h.octet_not_mem (c := '"') (by decide) (by decide)
  rw [captured?]
  split
  · next quoted starts =>
    rw [← List.isPrefixOf?_eq_some_iff_append_eq.1 starts] at plain
    exact absurd (List.mem_append_left _ quote_mem_capture) plain
  · rfl

end Service

namespace TclServer

/-- A server that is ready for a command, at an adapter with a given port. -/
structure Ready (t : TclServer Adapter) (p : AdapterPort) : Prop where
  named : IsTapName t.link.tapName
  here : p.name = Utf8.bytes t.link.tapName
  nothing_left : ∃ connection, t.link.connection = some connection ∧ connection.Between .tcl p []

variable {t : TclServer Adapter} {p : AdapterPort}

/-- **A line is sent and its reply is read**, whatever the line has asked for. -/
theorem exec_send {p' : AdapterPort} (ready : Ready t p) (here : p'.name = p.name) {line : String}
    (whole : 0x1a ∉ Utf8.bytes line) {captured : Bool} {output : Output} (answered : output ≠ .refusal)
    (answer : ∀ m, Service.tcl.answer m p (Utf8.bytes line) = (Manner.tclReply m captured output, p')) :
    ∃ t' m, (send line).exec t =
        (.ok (Text.trimEnd (String.ofList (Manner.replyText m captured output))), t') ∧ Ready t' p' := by
  obtain ⟨connection, opened, between⟩ := ready.nothing_left
  obtain ⟨connection₁, m, sent, between₁⟩ := between.send whole
  have printed := Manner.isPrinted_replyText (m := m) captured answered
  have absent : 0x1a ∉ (m.replyText captured output).map Utf8.octet :=
    Manner.octet_not_mem (c := '\x1a') printed (by decide) (by decide)
  have read : Frame.read [0x1a] false {} ([] ++ m.tclReply captured output) =
      (.complete ((m.replyText captured output).map Utf8.octet), []) := by
    rw [List.nil_append, Manner.tclReply, ← List.append_nil (_ ++ [0x1a])]
    exact Frame.read_marker absent []
  rw [answer] at between₁
  obtain ⟨connection₂, read_reply, between₂⟩ := between₁.readUntil read
  have exchange : (do
      Connection.send (Utf8.bytes line ++ [endMark])
      let reply ← Connection.readUntil [endMark] false
      pure (Text.trimEnd (Utf8.text reply))).exec connection =
        (.ok (Text.trimEnd (String.ofList (m.replyText captured output))), connection₂) := by
    refine (Action.exec_bind_ok sent _).trans ((Action.exec_bind_ok read_reply _).trans ?_)
    rw [Action.exec_pure, Utf8.text, Utf8.decode_octets (Manner.isAscii_of_isPrinted printed)]
  let next : TclServer Adapter := { t with link := { t.link with connection := some connection₂ } }
  refine ⟨next, m, ?_, ready.named, here.trans ready.here, connection₂, rfl, between₂⟩
  rw [send, Action.exec_bind_ok (Action.exec_log _ _ _ t), onLink, Action.exec_onPart,
    Link.exec_use opened, exchange]

/-- **Every command is run and its result comes back.** -/
theorem runs_send : Runs Ready send := by
  intro t p command request ready understood answered
  have whole : 0x1a ∉ Utf8.bytes command :=
    understood.sendable.octet_not_mem (c := '\x1a') (by decide) (by decide)
  have answer : ∀ m, Service.tcl.answer m p (Utf8.bytes command) =
      (Manner.tclReply m false (p.perform request).1, (p.perform request).2) := by
    intro m
    rw [Service.answer, Service.captured?_of_sendable understood.sendable, AdapterPort.execute,
      understood.request]
  obtain ⟨t', m, ran, ready'⟩ := exec_send ready (p.name_perform request) whole answered answer
  refine ⟨t', m, ?_, ready'⟩
  rw [ran, Manner.trimEnd_replyText answered]

/-- **Every command is run and what it prints comes back.** -/
theorem runs_capture : Runs Ready capture := by
  intro t p command request ready understood answered
  have whole : 0x1a ∉ Utf8.bytes ("capture \"" ++ command ++ "\"") := by
    have sendable := understood.sendable.octet_not_mem (c := '\x1a') (by decide) (by decide)
    rw [Utf8.bytes_append, Utf8.bytes_append, List.mem_append, List.mem_append, not_or, not_or]
    refine ⟨⟨?_, sendable⟩, ?_⟩
    · rw [Utf8.bytes_eq]
      decide
    · rw [Utf8.bytes_eq]
      decide
  have answer : ∀ m, Service.tcl.answer m p (Utf8.bytes ("capture \"" ++ command ++ "\"")) =
      (Manner.tclReply m true (p.perform request).1, (p.perform request).2) := by
    intro m
    rw [Service.answer, Service.captured?_quoted understood.sendable]
    dsimp only
    rw [AdapterPort.execute, understood.request]
  obtain ⟨t', m, ran, ready'⟩ := exec_send ready (p.name_perform request) whole answered answer
  refine ⟨t', m, ?_, ready'⟩
  rw [capture, understood.sendable.quoteBody_eq, String.ofList_toList, Action.exec_bind_ok ran,
    Manner.unwrap_replyText true answered]
  rfl

/-- **The accesses of the server are those of the module** behind the adapter. -/
theorem refines : Transport.Refines (Over Ready) where
  write address data := runs_capture.simulates_write .tcl address data
  read address := runs_capture.simulates_read .tcl address
  writeDtmcs value := Runs.simulates_writeDtmcs runs_send runs_capture
    (fun ready => ⟨ready.named, ready.here⟩) value
  readDtmcs := Runs.simulates_readDtmcs runs_send runs_capture fun ready => ⟨ready.named, ready.here⟩
  readIdcode := Runs.simulates_readIdcode runs_send runs_capture fun ready => ⟨ready.named, ready.here⟩
  resetTap := runs_send.simulates_resetTap

end TclServer

end HartDebug
