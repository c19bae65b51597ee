import HartDebug.Proofs.Wire.Adapter
import HartDebug.Proofs.Wire.Framing

/-!
# Exchanges with an adapter

A command is sent in as many pieces as the adapter takes, and its answer read in as many as the adapter
gives.  Neither matters: once all of the command has been taken it is answered, and the answer is read
octet by octet from what has come and what is still to come.

* `ScriptedStream.exists_offer` — a script takes some of whatever it is offered;
* `Connection.Between` — a connection between two commands, with what is left to be read on it;
* `exec_readUntil_of_next`, `exec_sendAll_of_taken` — **readings and sendings over any stream**;
* `Between.send` — **a command that has been sent has been answered**.
-/

namespace HartDebug

/-! ## Taking octets -/

namespace Adapter

theorem feed_moves (a : Adapter) (k : Nat) (b : Byte) :
    ({ a with moves := k } : Adapter).feed b = { a.feed b with moves := k } := by
  rw [feed, feed]
  split <;> rfl

theorem foldl_feed_moves (a : Adapter) (k : Nat) (octets : List Byte) :
    octets.foldl feed { a with moves := k } = { octets.foldl feed a with moves := k } := by
  induction octets generalizing a with
  | nil => rfl
  | cons b octets ih => rw [List.foldl_cons, List.foldl_cons, feed_moves, ih]

/-- Octets that do not end a command are collected. -/
theorem foldl_feed_line {a : Adapter} {octets : List Byte} (h : a.service.commandEnd ∉ octets) :
    octets.foldl feed a = { a with line := a.line ++ octets } := by
  induction octets generalizing a with
  | nil => rw [List.foldl_nil, List.append_nil]
  | cons b octets ih =>
    rw [List.mem_cons, not_or] at h
    rw [List.foldl_cons, feed, if_neg (Ne.symm h.1), ih (a := { a with line := a.line ++ [b] }) h.2,
      List.append_assoc]
    rfl

/-- A whole command is answered. -/
theorem foldl_feed_command {a : Adapter} {command : List Byte} (start : a.line = [])
    (h : a.service.commandEnd ∉ command) :
    (command ++ [a.service.commandEnd]).foldl feed a = ({ a with line := command } : Adapter).answer := by
  rw [List.foldl_append, foldl_feed_line h, start, List.nil_append, List.foldl_cons, List.foldl_nil,
    feed, if_pos rfl]

end Adapter

/-- A stream without a limit in all takes some of whatever it is offered, and stays as it is. -/
theorem ScriptedStream.exists_offer {s : ScriptedStream} (room : s.room = none) (most : s.most ≠ some 0)
    (b : Byte) (bytes : List Byte) : ∃ n, ByteStream.offer (b :: bytes) s = (.ok (n + 1), s) := by
  obtain ⟨n, taken⟩ : ∃ n, s.takes (b :: bytes).length = n + 1 := by
    refine Nat.exists_eq_add_one.2 ?_
    rw [takes, room]
    cases limit : s.most with
    | none => simp
    | some k =>
      have some_taken : k ≠ 0 := fun none => most (limit.trans (congrArg some none))
      simp
      omega
  refine ⟨n, ?_⟩
  show s.offer (b :: bytes) = _
  rw [offer, taken, if_neg (by simp [room]), room, Option.map_none, ← room]

/-- So it does again whenever it is offered octets. -/
theorem ScriptedStream.exists_offer_same {s : ScriptedStream} (room : s.room = none) (most : s.most ≠ some 0)
    (b : Byte) (bytes : List Byte) {s' : ScriptedStream} (same : s' = s) :
    ∃ n s'', ByteStream.offer (b :: bytes) s' = (.ok (n + 1), s'') ∧ s'' = s := by
  obtain ⟨n, offered⟩ := exists_offer room most b bytes
  exact ⟨n, s, same ▸ offered, rfl⟩

/-! ## Over a connection -/

namespace Connection

variable {c : Connection Adapter} {service : Service} {p : AdapterPort}

/-- A connection between two commands: what is left to be read has come or is about to come. -/
structure Between (c : Connection Adapter) (service : Service) (p : AdapterPort) (unread : List Byte) :
    Prop where
  service : c.stream.service = service
  port : c.stream.port = p
  line : c.stream.line = []
  unread : c.buffer ++ c.stream.outgoing = unread

/-- A reading is its next octet and, unless that ends it, the rest of the reading. -/
theorem exec_readFrame {σ : Type} [ByteStream σ] (marker : List Byte) (telnet : Bool) (f : Frame)
    (c : Connection σ) :
    Action.exec (readFrame marker telnet f) c =
      match nextByte.exec c with
      | (.error e, c') => (.error e, c')
      | (.ok b, c') =>
        match f.step marker telnet b with
        | .complete text => (.ok text, c')
        | .unfinished f' => Action.exec (readFrame marker telnet f') c' := by
  unfold Action.exec Action.run
  rw [readFrame.eq_def]
  dsimp only
  split
  · next e failed => rw [failed]
  · next b took =>
    rw [took]
    dsimp only
    cases f.step marker telnet b with
    | complete text => rfl
    | unfinished f' => rfl

/-- **A reading over a connection is a reading over what is left on it**, whatever it is that tells what is
left, as long as the next octet is the first of that.  The induction is on what is left. -/
theorem exec_readUntil_of_next {σ : Type} [ByteStream σ] {P : List Byte → Connection σ → Prop}
    (next : ∀ {b rest c}, P (b :: rest) c → ∃ c', nextByte.exec c = (.ok b, c') ∧ P rest c')
    {marker text rest unread : List Byte} {telnet : Bool} {c : Connection σ} (here : P unread c)
    (read : Frame.read marker telnet {} unread = (.complete text, rest)) :
    ∃ c', (readUntil marker telnet).exec c = (.ok text, c') ∧ P rest c' := by
  suffices from_here : ∀ f, Frame.read marker telnet f unread = (.complete text, rest) →
      ∃ c', Action.exec (readFrame marker telnet f) c = (.ok text, c') ∧ P rest c' by
    obtain ⟨c', ran, after⟩ := from_here {} read
    refine ⟨c', ?_, after⟩
    rw [readUntil, Action.exec_bind_ok ran]
    rfl
  clear read
  induction unread generalizing c with
  | nil => exact fun f read => by cases read
  | cons b unread ih =>
    intro f read
    obtain ⟨c', took, after⟩ := next here
    rw [exec_readFrame, took]
    rw [Frame.read] at read
    dsimp only
    cases stepped : f.step marker telnet b with
    | complete found =>
      rw [stepped] at read
      cases read
      exact ⟨c', rfl, after⟩
    | unfinished f' =>
      rw [stepped] at read
      exact ih after f' read

/-- **All octets are taken**, in pieces, by a stream that takes some of whatever it is offered.  The
induction is on how many are left to be taken. -/
theorem exec_sendAll_of_taken {σ : Type} [ByteStream σ] {P : σ → Prop}
    (taken : ∀ b bytes {s}, P s → ∃ n s', ByteStream.offer (b :: bytes) s = (.ok (n + 1), s') ∧ P s')
    (octets : List Byte) {c : Connection σ} (here : P c.stream) :
    ∃ s', (sendAll octets).exec c = (.ok (), { c with stream := s', sent := c.sent ++ octets }) ∧
      P s' := by
  generalize size : octets.length = n
  induction n using Nat.strongRecOn generalizing octets c with
  | ind n ih =>
    cases octets with
    | nil =>
      refine ⟨c.stream, ?_, here⟩
      rw [sendAll, List.append_nil]
      rfl
    | cons b rest =>
      obtain ⟨k, s', offered, here'⟩ := taken b rest here
      have shorter : (rest.drop k).length < n := by
        rw [List.length_drop, ← size, List.length_cons]
        omega
      obtain ⟨s'', ran, here''⟩ := ih _ shorter (rest.drop k)
        (c := { c with stream := s', sent := c.sent ++ (b :: rest).take (k + 1) }) here' rfl
      refine ⟨s'', ?_, here''⟩
      rw [sendAll, Action.exec_bind_ok (Action.exec_get c), offered]
      refine ran.trans ?_
      rw [List.take_succ_cons, List.append_assoc, List.cons_append, List.take_append_drop]

namespace Between

/-- The next octet is the first of those that are left. -/
theorem nextByte {b : Byte} {rest : List Byte} (h : c.Between service p (b :: rest)) :
    ∃ c', Connection.nextByte.exec c = (.ok b, c') ∧ c'.Between service p rest := by
  have left := h.unread
  unfold Connection.nextByte
  rw [Action.exec_bind_ok (Action.exec_get c)]
  cases buffered : c.buffer with
  | cons first more =>
    rw [buffered, List.cons_append] at left
    obtain ⟨rfl, rest_eq⟩ := List.cons.inj left
    exact ⟨{ c with buffer := more }, rfl, h.service, h.port, h.line, rest_eq⟩
  | nil =>
    rw [buffered, List.nil_append] at left
    have received : ByteStream.receive c.stream =
        (.ok (b :: rest.take (c.stream.sizes c.stream.moves)),
          { c.stream with
            outgoing := rest.drop (c.stream.sizes c.stream.moves), moves := c.stream.moves + 1 }) := by
      show c.stream.receive = _
      rw [Adapter.receive, left, if_neg (by simp)]
      rfl
    dsimp only
    rw [received]
    exact ⟨_, rfl, h.service, h.port, h.line, List.take_append_drop _ rest⟩

theorem readUntil {marker text rest : List Byte} {telnet : Bool} {unread : List Byte}
    (h : c.Between service p unread)
    (read : Frame.read marker telnet {} unread = (.complete text, rest)) :
    ∃ c', (Connection.readUntil marker telnet).exec c = (.ok text, c') ∧ c'.Between service p rest :=
  exec_readUntil_of_next (P := fun unread c => c.Between service p unread) nextByte h read

end Between

/-- The adapter takes all octets and is fed them.  The induction is on how many are left to be taken. -/
theorem exec_sendAll (octets : List Byte) (c : Connection Adapter) :
    ∃ c', (sendAll octets).exec c = (.ok (), c') ∧ c'.buffer = c.buffer ∧
      ∃ k, c'.stream = { octets.foldl Adapter.feed c.stream with moves := k } := by
  generalize size : octets.length = n
  induction n using Nat.strongRecOn generalizing octets c with
  | ind n ih =>
    cases octets with
    | nil => exact ⟨c, by rw [sendAll]; rfl, rfl, c.stream.moves, rfl⟩
    | cons b rest =>
      obtain ⟨taken, most⟩ : ∃ k, (b :: rest).length.min (c.stream.sizes c.stream.moves + 1) = k + 1 :=
        ⟨rest.length.min (c.stream.sizes c.stream.moves), Nat.succ_min_succ _ _⟩
      let stream : Adapter := ((b :: rest).take (taken + 1)).foldl Adapter.feed
        { c.stream with moves := c.stream.moves + 1 }
      have offered : ByteStream.offer (b :: rest) c.stream = (.ok (taken + 1), stream) := by
        show c.stream.offer (b :: rest) = _
        rw [Adapter.offer, most]
      let next : Connection Adapter :=
        { c with stream := stream, sent := c.sent ++ (b :: rest).take (taken + 1) }
      have shorter : (rest.drop taken).length < n := by
        rw [List.length_drop, ← size, List.length_cons]
        omega
      obtain ⟨c', ran, buffer, k, fed⟩ := ih _ shorter (rest.drop taken) next rfl
      refine ⟨c', ?_, buffer, k, ?_⟩
      · rw [sendAll, Action.exec_bind_ok (Action.exec_get c), offered]
        exact ran
      · rw [fed]
        show ({ (rest.drop taken).foldl Adapter.feed (((b :: rest).take (taken + 1)).foldl Adapter.feed
          { c.stream with moves := c.stream.moves + 1 }) with moves := k } : Adapter) = _
        rw [← List.foldl_append, List.take_succ_cons, List.cons_append, List.take_append_drop,
          Adapter.foldl_feed_moves]

/-- **A command that has been sent has been answered**, in whatever manner. -/
theorem Between.send {unread command : List Byte} (h : c.Between service p unread)
    (whole : service.commandEnd ∉ command) :
    ∃ c' m, (Connection.send (command ++ [service.commandEnd])).exec c = (.ok (), c') ∧
      c'.Between service (service.answer m p command).2 (unread ++ (service.answer m p command).1) := by
  obtain ⟨c', ran, buffer, k, fed⟩ := exec_sendAll (command ++ [service.commandEnd]) c
  have command_end : service.commandEnd = c.stream.service.commandEnd := by rw [h.service]
  rw [command_end] at whole fed
  rw [Adapter.foldl_feed_command h.line whole] at fed
  refine ⟨c', c.stream.manner c.stream.answers, ?_, ?_⟩
  · rw [Connection.send, Action.exec_bind_ok (Action.exec_log _ _ _ c)]
    exact ran
  · rw [← h.unread, ← h.port, ← h.service]
    refine ⟨?_, ?_, ?_, ?_⟩
    · rw [fed]
      rfl
    · rw [fed]
      rfl
    · rw [fed]
      rfl
    · rw [fed, buffer, List.append_assoc]
      rfl

end Connection

end HartDebug
