import HartDebug.Proofs.Effects
import HartDebug.Proofs.Wire.Exchange
import HartDebug.Proofs.Wire.OpenLink

/-!
# What has been sent

A stream may take fewer octets than it is offered, and it may fail.  Whatever it does, it has taken some octets
from the first on when it has taken all or failed, and these are what was sent.  Readings send nothing.

* `ByteStream.Takes` — what a stream takes of octets that it is offered, and how that ends;
* `Takes.unique`, `Takes.isPrefix`, `Takes.eq_of_ok` — **there is one such course**, and it is all of the octets
  or ends in a failure;
* `Connection.moves_readUntil` — a reading leaves alone what has been sent;
* `Connection.exists_takes_sendAll` — **sending is what the stream takes**;
* `ByteStream.TakesAll`, `Connection.takesAll_of_taken` — streams that take everything;
* `ScriptedStream.takesAll`, `ScriptedStream.takes_of_room` — scripts of streams that take everything, or too little;
* `Connection.Sends`, `Connection.sends_send` — an action that sends octets and nothing else;
* `Link.exists_takes`, `Link.exists_sent` — the same for the octets that were sent over all connections of a link;
* `TclServer.sends_exchange` — a command for the Tcl server.
-/

namespace HartDebug

open Action (Moves IsTravel)

variable {σ α β : Type}

/-! ## What a stream takes -/

namespace ByteStream

variable [ByteStream σ]

/-- Octets are offered to a stream until it has taken them all or fails: what it has taken, how that ended and
the stream afterwards. -/
inductive Takes : List Byte → σ → List Byte → Except StreamFault Unit → σ → Prop
  | all (s : σ) : Takes [] s [] (.ok ()) s
  | failed {b : Byte} {rest : List Byte} {s s' : σ} {fault : StreamFault}
    (offered : offer (b :: rest) s = (.error fault, s')) : Takes (b :: rest) s [] (.error fault) s'
  | nothing {b : Byte} {rest : List Byte} {s s' : σ} (offered : offer (b :: rest) s = (.ok 0, s')) :
    Takes (b :: rest) s [] (.error .nothingTaken) s'
  | piece {b : Byte} {rest : List Byte} {s s' s'' : σ} {n : Nat} {taken : List Byte}
    {outcome : Except StreamFault Unit} (offered : offer (b :: rest) s = (.ok (n + 1), s'))
    (others : Takes (rest.drop n) s' taken outcome s'') :
    Takes (b :: rest) s ((b :: rest).take (n + 1) ++ taken) outcome s''

/-- The stream takes everything: octets of any number, in pieces of any size. -/
def TakesAll (s : σ) : Prop :=
  ∀ octets : List Byte, ∃ s', Takes octets s octets (.ok ()) s'

namespace Takes

variable {octets taken taken' : List Byte} {s s' s'' : σ} {outcome outcome' : Except StreamFault Unit}

/-- There is one course that this can take. -/
theorem unique (first : Takes octets s taken outcome s') (second : Takes octets s taken' outcome' s'') :
    taken = taken' ∧ outcome = outcome' ∧ s' = s'' := by
  induction first generalizing taken' with
  | all =>
    cases second
    exact ⟨rfl, rfl, rfl⟩
  | failed offered =>
    cases second with
    | failed offered' =>
      cases offered.symm.trans offered'
      exact ⟨rfl, rfl, rfl⟩
    | nothing offered' => cases offered.symm.trans offered'
    | piece offered' _ => cases offered.symm.trans offered'
  | nothing offered =>
    cases second with
    | failed offered' => cases offered.symm.trans offered'
    | nothing offered' =>
      cases offered.symm.trans offered'
      exact ⟨rfl, rfl, rfl⟩
    | piece offered' _ => cases offered.symm.trans offered'
  | piece offered _ ih =>
    cases second with
    | failed offered' => cases offered.symm.trans offered'
    | nothing offered' => cases offered.symm.trans offered'
    | piece offered' others =>
      cases offered.symm.trans offered'
      obtain ⟨rfl, rfl, rfl⟩ := ih others
      exact ⟨rfl, rfl, rfl⟩

/-- A piece and what is left after it are the octets. -/
theorem piece_append_rest (b : Byte) (rest : List Byte) (n : Nat) :
    (b :: rest).take (n + 1) ++ rest.drop n = b :: rest := by
  rw [List.take_succ_cons, List.cons_append, List.take_append_drop]

/-- Octets are taken from the first on. -/
theorem isPrefix (takes : Takes octets s taken outcome s') : taken <+: octets := by
  induction takes with
  | all => exact List.nil_prefix
  | failed _ => exact List.nil_prefix
  | nothing _ => exact List.nil_prefix
  | @piece b rest _ _ _ n _ _ _ _ ih =>
    have front := (List.prefix_append_right_inj ((b :: rest).take (n + 1))).2 ih
    rw [piece_append_rest] at front
    exact front

/-- Without a failure all of them are taken. -/
theorem eq_of_ok (takes : Takes octets s taken (.ok ()) s') : taken = octets := by
  generalize ended : (Except.ok () : Except StreamFault Unit) = outcome at takes
  induction takes with
  | all => rfl
  | failed _ => cases ended
  | nothing _ => cases ended
  | @piece b rest _ _ _ n _ _ _ _ ih => rw [ih ended, piece_append_rest]

end Takes

end ByteStream

open ByteStream (Takes)

/-! ## Connections -/

namespace Connection

/-- The same octets have been sent. -/
def SameSent (c c' : Connection σ) : Prop :=
  c'.sent = c.sent

theorem isTravel_sameSent : IsTravel (SameSent (σ := σ)) where
  refl _ := rfl
  trans first second := second.trans first

variable [ByteStream σ]

/-- The action sends the octets, as far as the stream takes them, and nothing else.  If the stream fails, that is
what the action fails with. -/
def Sends (octets : List Byte) (x : Action DebugError (Connection σ) α) : Prop :=
  ∀ c, ∃ taken outcome stream, Takes octets c.stream taken outcome stream ∧
    (x.exec c).2.sent = c.sent ++ taken ∧
    ∀ fault, outcome = .error fault → (x.exec c).1 = .error (.transport .send fault)

/-- What comes after octets have been sent may fail, as long as it sends nothing. -/
theorem Sends.bind {octets : List Byte} {x : Action DebugError (Connection σ) α}
    {f : α → Action DebugError (Connection σ) β} (sends : Sends octets x)
    (silent : ∀ a, Moves SameSent (f a)) : Sends octets (x >>= f) := by
  intro c
  obtain ⟨taken, outcome, stream, takes, sent, why⟩ := sends c
  refine ⟨taken, outcome, stream, takes, ?_⟩
  rcases ran : x.exec c with ⟨e | a, c'⟩
  · rw [ran] at sent why
    rw [Action.exec_bind_error ran]
    refine ⟨sent, fun fault failed => ?_⟩
    have same := why fault failed
    exact congrArg Except.error (Except.error.inj same)
  · rw [ran] at sent why
    rw [Action.exec_bind_ok ran]
    exact ⟨(silent a c').trans sent, fun fault failed => nomatch why fault failed⟩

theorem moves_nextByte : Moves SameSent (nextByte (σ := σ)) := by
  intro c
  rw [nextByte, Action.exec_bind_ok (Action.exec_get c)]
  split
  · rfl
  · split <;> rfl

/-- A reading leaves alone what has been sent.  The induction is that of the reading, octet by octet. -/
theorem moves_readFrame (marker : List Byte) (telnet : Bool) (f : Frame) :
    Moves SameSent (readFrame (σ := σ) marker telnet f) := by
  intro c
  show SameSent c (readFrame marker telnet f c).state
  fun_induction readFrame marker telnet f c with
  | case1 f c next e failed => exact moves_nextByte c
  | case2 f c next b took text ended => exact moves_nextByte c
  | case3 f c next b took f' going rest ih => exact isTravel_sameSent.trans (moves_nextByte c) ih

theorem moves_readUntil (marker : List Byte) (telnet : Bool) :
    Moves SameSent (readUntil (σ := σ) marker telnet) :=
  (moves_readFrame marker telnet {}).bind isTravel_sameSent fun text =>
    (Moves.log isTravel_sameSent _ _ _).bind isTravel_sameSent fun _ => .pure isTravel_sameSent text

/-- **Sending is what the stream takes**, by induction on how many octets are left. -/
theorem exists_takes_sendAll (octets : List Byte) (c : Connection σ) :
    ∃ taken outcome stream, Takes octets c.stream taken outcome stream ∧
      (sendAll octets).exec c =
        (outcome.mapError (.transport .send), { c with stream := stream, sent := c.sent ++ taken }) := by
  generalize size : octets.length = n
  induction n using Nat.strongRecOn generalizing octets c with
  | ind n ih =>
    cases octets with
    | nil =>
      refine ⟨[], .ok (), c.stream, .all _, ?_⟩
      rw [sendAll, List.append_nil]
      rfl
    | cons b rest =>
      rw [sendAll, Action.exec_bind_ok (Action.exec_get c)]
      have unsent (stream : σ) : ({ c with stream := stream, sent := c.sent ++ [] } : Connection σ) =
          { c with stream := stream } := by rw [List.append_nil]
      split
      · next fault s' offered => exact ⟨[], _, s', .failed offered, by rw [unsent]; rfl⟩
      · next s' offered => exact ⟨[], _, s', .nothing offered, by rw [unsent]; rfl⟩
      · next k s' offered =>
        have shorter : (rest.drop k).length < n := by
          rw [List.length_drop, ← size, List.length_cons]
          omega
        obtain ⟨taken, outcome, s'', others, ran⟩ := ih _ shorter (rest.drop k)
          { c with stream := s', sent := c.sent ++ (b :: rest).take (k + 1) } rfl
        refine ⟨_, outcome, s'', .piece offered others, ?_⟩
        rw [← List.append_assoc]
        exact ran

/-- A stream that takes some of whatever it is offered, and goes on like that, takes everything. -/
theorem takesAll_of_taken {P : σ → Prop}
    (taken : ∀ b bytes {s}, P s → ∃ n s', ByteStream.offer (b :: bytes) s = (.ok (n + 1), s') ∧ P s') {s : σ}
    (here : P s) : ByteStream.TakesAll s := by
  intro octets
  obtain ⟨s', sent, -⟩ := exec_sendAll_of_taken taken octets (c := { stream := s }) here
  obtain ⟨taken, outcome, stream, takes, ran⟩ := exists_takes_sendAll octets { stream := s }
  cases outcome with
  | error fault => cases sent.symm.trans ran
  | ok _ =>
    obtain rfl := takes.eq_of_ok
    exact ⟨stream, takes⟩

/-- **Octets are sent as far as the stream takes them.** -/
theorem sends_send (octets : List Byte) : Sends octets (send (σ := σ) octets) := by
  intro c
  obtain ⟨taken, outcome, stream, takes, ran⟩ := exists_takes_sendAll octets c
  refine ⟨taken, outcome, stream, takes, ?_⟩
  rw [send, Action.exec_bind_ok (Action.exec_log _ _ _ c), ran]
  refine ⟨rfl, ?_⟩
  rintro fault rfl
  rfl

end Connection

/-- A script of a stream without a limit in all takes everything. -/
theorem ScriptedStream.takesAll {s : ScriptedStream} (room : s.room = none) (most : s.most ≠ some 0) :
    ByteStream.TakesAll s :=
  Connection.takesAll_of_taken (exists_offer_same room most) rfl

/-- One with less room than it is offered octets takes as many as there is room for, and then it fails. -/
theorem ScriptedStream.takes_of_room {s : ScriptedStream} {n : Nat} (room : s.room = some (n + 1))
    (most : s.most = none) {octets : List Byte} (more : n + 1 < octets.length) :
    Takes octets s (octets.take (n + 1)) (.error s.whenFull) { s with room := some 0 } := by
  obtain ⟨b, rest, rfl⟩ := List.exists_cons_of_length_pos (Nat.zero_lt_of_lt more)
  have some_left : 0 < (rest.drop n).length := by
    rw [List.length_drop]
    simp only [List.length_cons] at more
    omega
  obtain ⟨c, left, split⟩ := List.exists_cons_of_length_pos some_left
  have taken : s.takes (b :: rest).length = n + 1 := by
    rw [takes, most, room]
    show Nat.min (Nat.min (b :: rest).length (b :: rest).length) (n + 1) = n + 1
    rw [show Nat.min (b :: rest).length _ = (b :: rest).length from Nat.min_self _]
    exact Nat.min_eq_right (Nat.le_of_lt more)
  have first : ByteStream.offer (b :: rest) s = (.ok (n + 1), { s with room := some 0 }) := by
    show s.offer (b :: rest) = _
    rw [offer, taken, room, if_neg (by simp), Option.map_some, Nat.sub_self]
  have full : Takes (rest.drop n) { s with room := some 0 } [] (.error s.whenFull) { s with room := some 0 } := by
    rw [split]
    exact .failed rfl
  have course := Takes.piece first full
  rwa [List.append_nil] at course

/-! ## Links -/

namespace Link

variable [ByteStream σ] {octets : List Byte} {x : Action DebugError (Connection σ) α}
  (sends : Connection.Sends octets x)

include sends

/-- Over all connections of a link the octets have been sent that the stream of the open one has taken. -/
theorem exists_takes {l : Link σ} {connection : Connection σ} (opened : l.connection = some connection) :
    ∃ taken outcome stream, Takes octets connection.stream taken outcome stream ∧
      ((use x).exec l).2.sent = l.sent ++ taken ∧
      ∀ fault, outcome = .error fault → ((use x).exec l).1 = .error (.transport .send fault) := by
  obtain ⟨taken, outcome, stream, takes, sent, why⟩ := sends connection
  refine ⟨taken, outcome, stream, takes, ?_⟩
  rw [exec_use opened]
  refine ⟨?_, why⟩
  simp [Link.sent, opened, sent]

/-- However that has ended, it was their beginning. -/
theorem exists_sent (l : Link σ) :
    ∃ taken, ((use x).exec l).2.sent = l.sent ++ taken ∧ taken <+: octets := by
  cases opened : l.connection with
  | none =>
    rw [exec_use_of_none opened]
    exact ⟨[], (List.append_nil _).symm, List.nil_prefix⟩
  | some connection =>
    obtain ⟨taken, _, _, takes, sent, -⟩ := exists_takes sends opened
    exact ⟨taken, sent, takes.isPrefix⟩

end Link

/-- **A command for the Tcl server** is sent with its end mark, and the reply to it read. -/
theorem TclServer.sends_exchange [ByteStream σ] (command : String) :
    Connection.Sends (Utf8.bytes command ++ [endMark]) (do
      Connection.send (σ := σ) (Utf8.bytes command ++ [endMark])
      let reply ← Connection.readUntil [endMark] false
      pure (Text.trimEnd (Utf8.text reply))) :=
  (Connection.sends_send _).bind fun _ =>
    (Connection.moves_readUntil [endMark] false).map Connection.isTravel_sameSent _

end HartDebug
