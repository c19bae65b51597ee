import HartDebug.Proofs.CommandLine.TearDown
import HartDebug.Proofs.Session.Refusal
import HartDebug.Proofs.Wire.Spoken

/-!
# Sessions that have hung up

A session that has been disconnected has no connection, whether or not the farewell could be sent.  Until a
connection is opened again nothing is sent: every operation that comes to an access fails there, and hanging up
once more succeeds.  So farewell is said once on a connection at most, however often a session is disconnected.

* `SessionKind` — sessions with an adapter of one kind, and what they can be asked;
* `Occasion`, `SessionKind.exec`, `SessionKind.after` — something asked of a session while adapters come and go;
* `SessionKind.openings`, `SessionKind.farewells` — the connections opened, and those hung up;
* `SessionKind.FallsSilent` — what is claimed of sessions of a kind;
* `Link.Dialled`, `SessionKind.Lawful` — what such sessions have in common;
* `Lawful.hung_up_once`, `Lawful.hung_up` — **connections, openings and farewells add up**, on one occasion and
  on one after another;
* `Lawful.isSilent`, `Lawful.stays_silent` — **one occasion without a connection, and one after another**;
* `Console.utters_own`, `Console.not_farewell_of_interrogate` — what is sent for an interrogation, and that none
  of it is the farewell;
* `Console.lawful`, `TclServer.lawful` — the sessions with the console and the Tcl server are lawful;
* `silent_once_disconnected` — **both fall silent**.
-/

namespace HartDebug

open Action (Moves IsTravel)
open Session (Along moves_perform)

variable {σ τ ι α : Type}

/-! ## What is asked of a session -/

/-- Something asked of a session with an adapter: an operation of all sessions, or something of its own. -/
inductive SessionCall (ι : Type) where
  | operation (op : Operation)
  | own (i : ι)
  deriving DecidableEq, Repr

/-- Something asked of a session, and what becomes at that time of attempts to reach an adapter. -/
structure Occasion (σ ι : Type) where
  call : SessionCall ι
  dial : Endpoint → Except StreamFault σ

/-- Sessions of one kind with an adapter: where their link is, the service behind it, and what they can be asked
besides the operations of all sessions. -/
structure SessionKind (σ τ ι : Type) where
  link : τ → Link σ
  withLink : Link σ → τ → τ
  service : Service
  own : ι → Action DebugError (Session τ) Unit
  /-- The commands that are sent for what else the sessions can be asked. -/
  asks : ι → List Exchange

namespace SessionKind

variable [ByteStream σ] [Transport τ] (k : SessionKind σ τ ι)

/-- The open connection of a session. -/
def connection? (s : Session τ) : Option (Connection σ) :=
  (k.link s.transport).connection

/-- Everything that adapters have taken from a session. -/
def sent (s : Session τ) : List Byte :=
  (k.link s.transport).sent

/-- The session, with attempts to reach an adapter ending as given from now on. -/
def reaching (dial : Endpoint → Except StreamFault σ) (s : Session τ) : Session τ :=
  s.withTransport (k.withLink { k.link s.transport with dial := dial } s.transport)

def perform : SessionCall ι → Action DebugError (Session τ) Operation.Reply
  | .operation op => op.perform
  | .own i => do k.own i; pure .done

/-- What a session does on an occasion. -/
def exec (o : Occasion σ ι) (s : Session τ) : Except DebugError Operation.Reply × Session τ :=
  (k.perform o.call).exec (k.reaching o.dial s)

/-- The session after occasions, of which any may have ended in a failure. -/
def after (s : Session τ) (occasions : List (Occasion σ ι)) : Session τ :=
  occasions.foldl (fun s o => (k.exec o s).2) s

/-- A connection is opened on the occasion. -/
def opens (o : Occasion σ ι) (s : Session τ) : Bool :=
  (k.connection? s).isNone && (k.connection? (k.exec o s).2).isSome

/-- How many connections are opened on occasions, one after another. -/
def openings : List (Occasion σ ι) → Session τ → Nat
  | [], _ => 0
  | o :: rest, s => (k.opens o s).toNat + openings rest (k.exec o s).2

/-- The connection on which farewell is said on the occasion, as that leaves it: the open one, if the session is
disconnected. -/
def farewell? (o : Occasion σ ι) (s : Session τ) : Option (Connection σ) :=
  match o.call with
  | .operation .disconnect => (k.connection? s).map fun c => ((Connection.send k.service.farewell).exec c).2
  | _ => none

/-- The connections on which farewell is said on occasions, one after another. -/
def farewells : List (Occasion σ ι) → Session τ → List (Connection σ)
  | [], _ => []
  | o :: rest, s => (k.farewell? o s).toList ++ farewells rest (k.exec o s).2

/-- Between two states of a session connections were hung up, and others opened: every connection that there was
or that was opened has been hung up, unless it is the open one. -/
structure Tally (s s' : Session τ) (hungUp : List (Connection σ)) (opened : Nat) : Prop where
  closed : (k.link s'.transport).closed = (k.link s.transport).closed ++ hungUp
  count : hungUp.length + (k.connection? s').isSome.toNat = (k.connection? s).isSome.toNat + opened

/-- What a session without a connection does on an occasion.  It sends nothing.  If it is disconnected it
succeeds; if it is connected and there is still no connection, the attempt to reach the adapter has failed, and
so has the call; any other operation that comes to an access fails there; and what only sessions of this kind
can be asked fails. -/
structure IsSilent [ReadsBack τ] (s : Session τ) (o : Occasion σ ι) : Prop where
  apart : k.connection? s = none
  unsent : k.sent (k.exec o s).2 = k.sent s
  disconnect : o.call = .operation .disconnect → (k.exec o s).1 = .ok .done
  connect : o.call = .operation .connect → k.connection? (k.exec o s).2 = none →
    ∃ fault, o.dial (k.link s.transport).endpoint = .error fault ∧
      (k.exec o s).1 = .error (.transport (.connect (k.link s.transport).endpoint.text) fault)
  operation : ∀ op, o.call = .operation op → op.KeepsConnection →
    Session.EndsAtFirstAccess .notConnected op (k.reaching o.dial s)
  own : ∀ i, o.call = .own i → (k.exec o s).1 = .error .notConnected

/-- A session is silent from its being disconnected, however that has ended, until a connection is opened; and
on each connection farewell is said once at most, when it is hung up. -/
structure FallsSilent [ReadsBack τ] : Prop where
  /-- As long as no connection has been opened, what was sent is what had been sent when the session was
  disconnected, and on the next occasion it is silent. -/
  silent : ∀ (s : Session τ) (between : List (Occasion σ ι)) (next : Occasion σ ι),
    let parted := (Operation.disconnect.perform.exec s).2
    k.openings between parted = 0 →
      k.sent (k.after parted between) = k.sent parted ∧ k.IsSilent (k.after parted between) next
  /-- The connections that are hung up are those on which farewell is said, each of them once, and there are as
  many of them, together with the one that is left open, as have been opened. -/
  hung_up : ∀ (s : Session τ) (occasions : List (Occasion σ ι)),
    k.Tally s (k.after s occasions) (k.farewells occasions s) (k.openings occasions s)
  /-- So farewell is said no more often than connections have been opened, the one at the start included. -/
  once : ∀ (s : Session τ) (occasions : List (Occasion σ ι)),
    (k.farewells occasions s).length ≤ (k.connection? s).isSome.toNat + k.openings occasions s
  /-- Disconnecting sends the farewell, as far as the stream takes it. -/
  parting : ∀ (s : Session τ) (o : Occasion σ ι), o.call = .operation .disconnect →
    ∃ taken, k.sent (k.exec o s).2 = k.sent s ++ taken ∧ taken <+: k.service.farewell
  /-- Every other operation sends commands of its accesses, as far as the stream takes them, and none of these is
  the farewell. -/
  talks : ∀ (s : Session τ) (o : Occasion σ ι) (op : Operation), o.call = .operation op → op ≠ .disconnect →
    ∃ said : List (List Byte), k.sent (k.exec o s).2 = k.sent s ++ said.flatten ∧
      ∀ octets ∈ said, k.service.IsCommand (k.link s.transport).tapName octets ∧
        ¬ k.service.farewell <+: octets
  /-- What only such sessions can be asked sends the commands for it, as far as the stream takes them. -/
  asks : ∀ (s : Session τ) (o : Occasion σ ι) (i : ι), o.call = .own i →
    ∃ said : List (List Byte), k.sent (k.exec o s).2 = k.sent s ++ said.flatten ∧
      ∀ octets ∈ said, ∃ exchange ∈ k.asks i, octets <+: k.service.line exchange

end SessionKind

/-! ## Links -/

namespace Link

/-- Without a connection there is nothing to hang up. -/
theorem exec_hangUp_of_none [ByteStream σ] {l : Link σ} (closed : l.connection = none) (farewell : List Byte) :
    (hangUp farewell).exec l = (.ok (), l) := by
  rw [hangUp, Action.exec_bind_ok (Action.exec_get l), closed]
  rfl

/-- What dialling makes of a link.  Nothing is sent or hung up, and a connection that is open stays open.  If there
is none afterwards, the adapter was out of reach. -/
structure Dialled (l : Link σ) (outcome : Except DebugError Unit) (l' : Link σ) : Prop where
  sent : l'.sent = l.sent
  closed : l'.closed = l.closed
  connected : l.connection.isSome = true → l'.connection.isSome = true
  unreached : l'.connection = none → ∃ fault, l.dial l.endpoint = .error fault ∧
    outcome = .error (.transport (.connect l.endpoint.text) fault)

/-- A new connection has sent nothing. -/
theorem sent_opened {l : Link σ} (closed : l.connection = none) (stream : σ) :
    ({ l with connection := some { stream := stream } } : Link σ).sent = l.sent := by
  simp [sent, closed]

theorem dialled_dialUnlessOpen (source : Source) (service : String) (l : Link σ) :
    Dialled l ((dialUnlessOpen source service).exec l).1 ((dialUnlessOpen source service).exec l).2 := by
  rw [dialUnlessOpen, Action.exec_bind_ok (Action.exec_get l)]
  cases here : l.connection with
  | some connection =>
    have opened : l.connection ≠ none := by simp [here]
    exact ⟨rfl, rfl, fun open_ => open_, fun closed => absurd closed opened⟩
  | none =>
    rw [if_pos Option.isNone_none, Action.exec_bind_ok (Action.exec_log _ _ _ l)]
    cases reached : l.dial l.endpoint with
    | error fault => exact ⟨rfl, rfl, fun open_ => open_, fun _ => ⟨fault, reached, rfl⟩⟩
    | ok stream =>
      exact ⟨sent_opened here stream, rfl, fun _ => rfl, fun closed => absurd closed (Option.some_ne_none _)⟩

/-- What is done on the connection that has been dialled, and sends nothing, makes no difference. -/
theorem Dialled.followed {l l' l'' : Link σ} (dialled : Dialled l (.ok ()) l') (kept : l'.Keeps l'')
    (unsent : l''.sent = l'.sent) (outcome : Except DebugError Unit) : Dialled l outcome l'' where
  sent := unsent.trans dialled.sent
  closed := kept.closed.trans dialled.closed
  connected open_ := kept.connected.trans (dialled.connected open_)
  unreached closed := by
    have none_left : l'.connection = none := by
      rw [← Option.not_isSome_iff_eq_none, ← kept.connected, closed]
      exact Bool.false_ne_true
    obtain ⟨_, _, failed⟩ := dialled.unreached none_left
    cases failed

/-- Hanging up says farewell, as far as the stream takes it. -/
theorem exists_sent_hangUp [ByteStream σ] (farewell : List Byte) (l : Link σ) :
    ∃ taken, ((hangUp farewell).exec l).2.sent = l.sent ++ taken ∧ taken <+: farewell := by
  obtain ⟨taken, said, front⟩ := exists_sent (Connection.sends_send farewell) l
  refine ⟨taken, said ▸ ?_, front⟩
  cases opened : l.connection with
  | none => rw [exec_hangUp_of_none opened, exec_use_of_none opened]
  | some connection =>
    rw [exec_hangUp opened, exec_use opened]
    simp [sent]

end Link

namespace Operation

variable [Transport τ]

theorem exec_connect (s : Session τ) :
    Operation.connect.perform.exec s =
      ((Bus.connect.exec s.transport).1.map fun _ => .done, s.withTransport (Bus.connect.exec s.transport).2) := by
  rw [perform, Action.exec_bind, Session.exec_onTransport]
  cases (Bus.connect.exec s.transport).1 <;> rfl

theorem exec_disconnect (s : Session τ) :
    Operation.disconnect.perform.exec s =
      ((Bus.disconnect.exec s.transport).1.map fun _ => .done,
        s.withTransport (Bus.disconnect.exec s.transport).2) := by
  rw [perform, Action.exec_bind, Session.exec_onTransport]
  cases (Bus.disconnect.exec s.transport).1 <;> rfl

end Operation

/-! ## Sessions of a kind -/

namespace SessionKind

variable [ByteStream σ] [Transport τ]

/-- What the sessions of a kind have in common.  Their transport is a link, makes its accesses of commands, and
refuses every access that is made without a connection; what they can be asked besides operations keeps the
connection, and fails without one. -/
structure Lawful (k : SessionKind σ τ ι) : Prop where
  link_withLink : ∀ l t, k.link (k.withLink l t) = l
  overLink : OverLink k.link k.service.farewell
  refuses : ∀ {t}, (k.link t).connection = none → Transport.Refuses .notConnected t
  connect : ∀ t : τ, (k.link t).Dialled (Bus.connect.exec t).1 (k.link (Bus.connect.exec t).2)
  disconnect : ∀ {t : τ}, (k.link t).connection = none → Bus.disconnect.exec t = (.ok (), t)
  talks : ∀ tap, Transport.Stays fun t t' => (k.link t).Talks k.service tap (k.link t')
  own_keeps : ∀ i, Moves (Along fun t t' => (k.link t).Keeps (k.link t')) (k.own i)
  own_asks : ∀ i, Moves (Along fun t t' => (k.link t).Utters
    (fun octets => ∃ exchange ∈ k.asks i, octets <+: k.service.line exchange) (k.link t')) (k.own i)
  own_refused : ∀ i {s}, k.connection? s = none → (k.own i).exec s = (.error .notConnected, s)

variable {k : SessionKind σ τ ι}

omit [ByteStream σ] [Transport τ] in
theorem Tally.append {s s' s'' : Session τ} {hungUp more : List (Connection σ)} {opened others : Nat}
    (first : k.Tally s s' hungUp opened) (second : k.Tally s' s'' more others) :
    k.Tally s s'' (hungUp ++ more) (opened + others) where
  closed := by rw [second.closed, first.closed, List.append_assoc]
  count := by
    have before := first.count
    have after := second.count
    rw [List.length_append]
    omega

omit [ByteStream σ] in
/-- An operation is performed with the adapters there are. -/
theorem exec_of_operation (k : SessionKind σ τ ι) {o : Occasion σ ι} {op : Operation}
    (call : o.call = .operation op) (s : Session τ) :
    k.exec o s = op.perform.exec (k.reaching o.dial s) := by
  rw [exec, call]
  rfl

/-- An occasion on which a connection stays open, if there is one, may open one and hangs up on none. -/
theorem tally_of_open {s : Session τ} {o : Occasion σ ι} (other : o.call ≠ .operation .disconnect)
    (connected : (k.connection? s).isSome = true → (k.connection? (k.exec o s).2).isSome = true)
    (closed : (k.link (k.exec o s).2.transport).closed = (k.link s.transport).closed) :
    k.Tally s (k.exec o s).2 (k.farewell? o s).toList (k.opens o s).toNat := by
  have unsaid : k.farewell? o s = none := by
    rw [farewell?]
    split
    · next call => exact absurd call other
    · rfl
  rw [unsaid, opens]
  refine ⟨closed.trans (List.append_nil _).symm, ?_⟩
  cases before : k.connection? s with
  | none => simp
  | some c => simp [connected (by rw [before]; rfl)]

namespace Lawful

variable (lawful : k.Lawful)

include lawful

/-- Whether adapters come or go makes no difference to what there is. -/
theorem link_reaching (dial : Endpoint → Except StreamFault σ) (s : Session τ) :
    k.link (k.reaching dial s).transport = { k.link s.transport with dial := dial } :=
  lawful.link_withLink _ _

theorem connection?_reaching (dial : Endpoint → Except StreamFault σ) (s : Session τ) :
    k.connection? (k.reaching dial s) = k.connection? s := by
  rw [connection?, lawful.link_reaching]
  rfl

theorem sent_reaching (dial : Endpoint → Except StreamFault σ) (s : Session τ) :
    k.sent (k.reaching dial s) = k.sent s := by
  rw [sent, lawful.link_reaching]
  rfl

/-- Connecting dials. -/
theorem dialled_connect (s : Session τ) :
    (k.link s.transport).Dialled (Bus.connect.exec s.transport).1
      (k.link (Operation.connect.perform.exec s).2.transport) := by
  rw [Operation.exec_connect]
  exact lawful.connect s.transport

/-- Disconnecting hangs up. -/
theorem link_disconnected (s : Session τ) :
    k.link (Operation.disconnect.perform.exec s).2.transport =
      ((Link.hangUp k.service.farewell).exec (k.link s.transport)).2 := by
  rw [Operation.exec_disconnect]
  exact lawful.overLink.disconnect s.transport

/-- A session that has been disconnected has no connection, also if the farewell could not be sent. -/
theorem connection?_disconnected (s : Session τ) :
    k.connection? (Operation.disconnect.perform.exec s).2 = none := by
  rw [connection?, lawful.link_disconnected]
  cases opened : (k.link s.transport).connection with
  | none => rw [Link.exec_hangUp_of_none opened, opened]
  | some connection => rw [Link.exec_hangUp opened]

/-! ### Farewells -/

/-- Farewell is said when an open connection is hung up, which leaves none. -/
theorem hung_up_of_disconnect (s : Session τ) {o : Occasion σ ι} (call : o.call = .operation .disconnect) :
    k.Tally s (k.exec o s).2 (k.farewell? o s).toList (k.opens o s).toNat := by
  have ran := k.exec_of_operation call s
  have apart : k.connection? (k.exec o s).2 = none := ran ▸ lawful.connection?_disconnected _
  have hung : (k.link (k.exec o s).2.transport).closed =
      ((Link.hangUp k.service.farewell).exec { k.link s.transport with dial := o.dial }).2.closed := by
    rw [ran, lawful.link_disconnected, lawful.link_reaching]
  cases opened : k.connection? s with
  | none =>
    rw [Link.exec_hangUp_of_none (l := { k.link s.transport with dial := o.dial }) opened] at hung
    exact ⟨by simp [hung, farewell?, call, opened], by simp [farewell?, opens, call, opened, apart]⟩
  | some c =>
    rw [Link.exec_hangUp (l := { k.link s.transport with dial := o.dial }) opened] at hung
    exact ⟨by simp [hung, farewell?, call, opened], by simp [farewell?, opens, call, opened, apart]⟩

/-- Connecting may open a connection. -/
theorem hung_up_of_connect (s : Session τ) {o : Occasion σ ι} (call : o.call = .operation .connect) :
    k.Tally s (k.exec o s).2 (k.farewell? o s).toList (k.opens o s).toNat := by
  have dialled := lawful.dialled_connect (k.reaching o.dial s)
  rw [← k.exec_of_operation call, lawful.link_reaching] at dialled
  exact tally_of_open (by rw [call]; nofun) dialled.connected dialled.closed

/-- What keeps the connection neither opens nor hangs up. -/
theorem hung_up_of_keeps {s : Session τ} {o : Occasion σ ι} (other : o.call ≠ .operation .disconnect)
    (kept : (k.link (k.reaching o.dial s).transport).Keeps (k.link (k.exec o s).2.transport)) :
    k.Tally s (k.exec o s).2 (k.farewell? o s).toList (k.opens o s).toNat := by
  rw [lawful.link_reaching] at kept
  exact tally_of_open other kept.connected.trans kept.closed

/-- **Connections, openings and farewells add up on one occasion**, whatever is asked. -/
theorem hung_up_once (s : Session τ) (o : Occasion σ ι) :
    k.Tally s (k.exec o s).2 (k.farewell? o s).toList (k.opens o s).toNat := by
  have travel := lawful.overLink.stays.along
  cases call : o.call with
  | own i =>
    refine lawful.hung_up_of_keeps (by rw [call]; nofun) ?_
    rw [exec, call]
    exact (lawful.own_keeps i).bind travel (fun _ => .pure travel _) _
  | operation op =>
    by_cases keeps : op.KeepsConnection
    · refine lawful.hung_up_of_keeps (fun same => keeps.2 ?_) ?_
      · rw [call] at same
        exact SessionCall.operation.inj same
      · rw [k.exec_of_operation call]
        exact moves_perform lawful.overLink.stays keeps _
    · cases op with
      | disconnect => exact lawful.hung_up_of_disconnect s call
      | connect => exact lawful.hung_up_of_connect s call
      | _ => exact absurd ⟨nofun, nofun⟩ keeps

/-- **Connections, openings and farewells add up**, by induction on the occasions. -/
theorem hung_up (s : Session τ) (occasions : List (Occasion σ ι)) :
    k.Tally s (k.after s occasions) (k.farewells occasions s) (k.openings occasions s) := by
  induction occasions generalizing s with
  | nil => exact ⟨(List.append_nil _).symm, Nat.zero_add _⟩
  | cons o rest ih => exact (lawful.hung_up_once s o).append (ih (k.exec o s).2)

/-! ### What is said -/

/-- Disconnecting says farewell, as far as the stream takes it. -/
theorem parting (s : Session τ) {o : Occasion σ ι} (call : o.call = .operation .disconnect) :
    ∃ taken, k.sent (k.exec o s).2 = k.sent s ++ taken ∧ taken <+: k.service.farewell := by
  obtain ⟨taken, said, front⟩ :=
    Link.exists_sent_hangUp k.service.farewell (k.link (k.reaching o.dial s).transport)
  rw [← lawful.link_disconnected, ← k.exec_of_operation call] at said
  refine ⟨taken, ?_, front⟩
  rw [← lawful.sent_reaching o.dial s]
  exact said

/-- Every other operation sends commands of its accesses; connecting sends nothing. -/
theorem talks_exec (s : Session τ) {o : Occasion σ ι} {op : Operation} (call : o.call = .operation op)
    (stays : op ≠ .disconnect) :
    ∃ said : List (List Byte), k.sent (k.exec o s).2 = k.sent s ++ said.flatten ∧
      ∀ octets ∈ said, k.service.IsCommand (k.link s.transport).tapName octets ∧
        ¬ k.service.farewell <+: octets := by
  rw [k.exec_of_operation call, ← lawful.sent_reaching o.dial s]
  by_cases opens : op = .connect
  · subst opens
    exact ⟨[], (lawful.dialled_connect _).sent.trans (List.append_nil _).symm, nofun⟩
  · have named : (k.link (k.reaching o.dial s).transport).tapName = (k.link s.transport).tapName := by
      rw [lawful.link_reaching]
    obtain ⟨-, said, sent, each⟩ := moves_perform (lawful.talks _) ⟨opens, stays⟩ (k.reaching o.dial s) named
    exact ⟨said, sent, fun octets mem => ⟨each octets mem, (each octets mem).not_farewell⟩⟩

/-- What only sessions of the kind can be asked sends the commands for it. -/
theorem asks_exec (s : Session τ) {o : Occasion σ ι} {i : ι} (call : o.call = .own i) :
    ∃ said : List (List Byte), k.sent (k.exec o s).2 = k.sent s ++ said.flatten ∧
      ∀ octets ∈ said, ∃ exchange ∈ k.asks i, octets <+: k.service.line exchange := by
  have travel : IsTravel (Along fun t t' => (k.link t).Utters
      (fun octets => ∃ exchange ∈ k.asks i, octets <+: k.service.line exchange) (k.link t')) :=
    ⟨fun _ => Link.isTravel_utters.refl _, fun first second => Link.isTravel_utters.trans first second⟩
  rw [exec, call, ← lawful.sent_reaching o.dial s]
  exact ((lawful.own_asks i).bind travel fun _ => .pure travel _) (k.reaching o.dial s)

/-! ### Without a connection -/

/-- Disconnecting a session without a connection succeeds and changes nothing. -/
theorem exec_disconnect_apart {s : Session τ} (apart : k.connection? s = none) :
    Operation.disconnect.perform.exec s = (.ok .done, s) := by
  rw [Operation.exec_disconnect, lawful.disconnect apart]
  rfl

/-- What only sessions of the kind can be asked fails and changes nothing. -/
theorem exec_own_apart {s : Session τ} (apart : k.connection? s = none) (i : ι) :
    (k.perform (.own i)).exec s = (.error .notConnected, s) :=
  Action.exec_bind_error (lawful.own_refused i apart) _

variable [ReadsBack τ]

/-- An operation ends at its first access. -/
theorem endsAtFirstAccess {s : Session τ} (apart : k.connection? s = none) {op : Operation}
    (keeps : op.KeepsConnection) : Session.EndsAtFirstAccess .notConnected op s :=
  Session.endsAtFirstAccess (lawful.refuses apart) nofun keeps

/-- Nothing is sent. -/
theorem sent_perform {s : Session τ} (apart : k.connection? s = none) (call : SessionCall ι) :
    k.sent ((k.perform call).exec s).2 = k.sent s := by
  cases call with
  | own i => rw [lawful.exec_own_apart apart]
  | operation op =>
    by_cases keeps : op.KeepsConnection
    · exact congrArg (fun t => (k.link t).sent) (lawful.endsAtFirstAccess apart keeps).transport
    · cases op with
      | connect => exact (lawful.dialled_connect s).sent
      | disconnect => exact congrArg (fun ran => k.sent ran.2) (lawful.exec_disconnect_apart apart)
      | _ => exact absurd ⟨nofun, nofun⟩ keeps

/-- **Without a connection a session is silent**, whatever it is asked. -/
theorem isSilent {s : Session τ} (apart : k.connection? s = none) (o : Occasion σ ι) : k.IsSilent s o := by
  have here : k.connection? (k.reaching o.dial s) = none := (lawful.connection?_reaching o.dial s).trans apart
  constructor
  case apart => exact apart
  case unsent => exact (lawful.sent_perform here o.call).trans (lawful.sent_reaching o.dial s)
  case disconnect =>
    intro call
    rw [k.exec_of_operation call]
    exact congrArg Prod.fst (lawful.exec_disconnect_apart here)
  case connect =>
    intro call closed
    rw [k.exec_of_operation call] at closed ⊢
    obtain ⟨fault, dialled, failed⟩ := (lawful.dialled_connect (k.reaching o.dial s)).unreached closed
    rw [lawful.link_reaching] at dialled failed
    refine ⟨fault, dialled, ?_⟩
    rw [Operation.exec_connect, failed]
    rfl
  case operation => exact fun op _ keeps => lawful.endsAtFirstAccess here keeps
  case own =>
    intro i call
    rw [exec, call, lawful.exec_own_apart here]

/-- **A session stays silent** until a connection is opened, by induction on the occasions. -/
theorem stays_silent {s : Session τ} (apart : k.connection? s = none) {occasions : List (Occasion σ ι)}
    (unopened : k.openings occasions s = 0) :
    k.connection? (k.after s occasions) = none ∧ k.sent (k.after s occasions) = k.sent s := by
  induction occasions generalizing s with
  | nil => exact ⟨apart, rfl⟩
  | cons o rest ih =>
    -- No connection is opened on the first occasion, so there is none on the others.
    rw [openings, Nat.add_eq_zero_iff, Bool.toNat_eq_zero, opens, apart, Option.isNone_none, Bool.true_and,
      Option.isSome_eq_false_iff, Option.isNone_iff_eq_none] at unopened
    obtain ⟨closed, unsent⟩ := ih unopened.1 unopened.2
    exact ⟨closed, unsent.trans (lawful.isSilent apart o).unsent⟩

/-- **The sessions of a lawful kind fall silent.** -/
theorem fallsSilent : k.FallsSilent where
  silent s _ next unopened := by
    obtain ⟨apart, unsent⟩ := lawful.stays_silent (lawful.connection?_disconnected s) unopened
    exact ⟨unsent, lawful.isSilent apart next⟩
  hung_up := lawful.hung_up
  once s occasions := (lawful.hung_up s occasions).count ▸ Nat.le_add_right _ _
  parting s _ call := lawful.parting s call
  talks s _ _ call stays := lawful.talks_exec s call stays
  asks s _ _ call := lawful.asks_exec s call

end Lawful

end SessionKind

/-! ## The two services -/

/-- What is done on the transport and leaves it as it is leaves the session as it is. -/
theorem Session.exec_onTransport_of_unmoved {x : Action DebugError τ α} {s : Session τ}
    {outcome : Except DebugError α} (unmoved : x.exec s.transport = (outcome, s.transport)) :
    (onTransport x).exec s = (outcome, s) := by
  rw [exec_onTransport, unmoved]
  rfl

namespace Console

/-- What a session with the console can be asked besides operations. -/
inductive Own where
  | interrogate
  | command (exchange : Exchange)
  deriving DecidableEq, Repr

variable [ByteStream σ]

/-- Sessions with the console. -/
def kind : SessionKind σ (Console σ) Own where
  link c := c.link
  withLink l c := { c with link := l }
  service := .console
  own
    | .interrogate => Session.interrogate
    | .command exchange => discard (Session.onTransport (run exchange))
  asks
    | .interrogate => [.plain "scan_chain", .plain "riscv info"]
    | .command exchange => [exchange]

section

variable {c : Console σ} (closed : c.link.connection = none)

include closed

theorem exec_run_of_none (exchange : Exchange) : (run exchange).exec c = (.error .notConnected, c) := by
  cases exchange with
  | plain command => exact exec_executeLines_of_none closed command
  | printed command => exact exec_execute_of_none closed command

theorem exec_scan_of_none (i : Instruction) (value : Word) :
    (scan i value).exec c = (.error .notConnected, c) := by
  rw [scan, Action.exec_bind_ok (Action.exec_get c)]
  exact Action.exec_bind_error (Action.exec_map_error (exec_execute_of_none closed _) _) _

/-- A console without a connection refuses every access. -/
theorem refuses : Transport.Refuses .notConnected c where
  write _ _ := Action.exec_bind_error (exec_execute_of_none closed _) _
  read _ := Action.exec_bind_error (exec_execute_of_none closed _) _
  writeDtmcs _ := Action.exec_map_error (exec_scan_of_none closed _ _) _
  readDtmcs := Action.exec_bind_error (exec_scan_of_none closed _ _) _
  readIdcode := Action.exec_bind_error (exec_scan_of_none closed _ _) _
  resetTap := Action.exec_map_error (exec_execute_of_none closed _) _

end

/-- The same octets have been sent. -/
def SameSent (c c' : Console σ) : Prop :=
  c'.link.sent = c.link.sent

omit [ByteStream σ] in
theorem travel_sameSent : IsTravel (SameSent (σ := σ)) where
  refl _ := rfl
  trans first second := second.trans first

theorem sameSent_readAnswer : Moves SameSent (readAnswer (σ := σ)) := by
  have read : Moves SameSent (onLink (Link.use (Connection.readUntil (σ := σ) prompt true))) :=
    (Link.moves_use_sent (Connection.moves_readUntil prompt true)).onPart fun _ _ same => same
  exact read.bind travel_sameSent fun _ => .pure travel_sameSent _

/-- The greeting is read once the console has been dialled. -/
theorem dialled_connect (c : Console σ) :
    c.link.Dialled (Bus.connect.exec c).1 (Bus.connect.exec c).2.link := by
  have dialled := Link.dialled_dialUnlessOpen .console "console" c.link
  have ran : (onLink (Link.dialUnlessOpen .console "console")).exec c =
      (((Link.dialUnlessOpen .console "console").exec c.link).1,
        { c with link := ((Link.dialUnlessOpen .console "console").exec c.link).2 }) := rfl
  have connected : (Bus.connect : Action DebugError (Console σ) Unit) = (do
      onLink (Link.dialUnlessOpen .console "console")
      discard readAnswer) := rfl
  rw [connected]
  generalize (Link.dialUnlessOpen .console "console").exec c.link = link at dialled ran
  rcases link with ⟨_ | _, l⟩
  · rw [Action.exec_bind_error ran]
    exact dialled
  · rw [Action.exec_bind_ok ran]
    exact dialled.followed (moves_readAnswer.map travel_keeps _ { c with link := l })
      (sameSent_readAnswer.map travel_sameSent _ { c with link := l }) _

theorem moves_run (exchange : Exchange) : Moves Keeps (run (σ := σ) exchange) := by
  cases exchange with
  | plain command => exact moves_executeLines command
  | printed command => exact moves_execute command

theorem utters_run (exchange : Exchange) :
    Moves (Utters (· <+: Service.console.line exchange)) (run (σ := σ) exchange) := by
  cases exchange with
  | plain command => exact utters_executeLines (.plain command)
  | printed command => exact utters_execute (.printed command)

omit [ByteStream σ] in
/-- Taking over a name for the port sends nothing. -/
theorem utters_setTapName {kind : List Byte → Prop} (name : String) :
    Moves (Utters kind) (setTapName (σ := σ) name) := by
  have named : Moves (Link.Utters kind)
      (modify fun l => { l with tapName := name } : Action DebugError (Link σ) PUnit) :=
    .modify fun l => ⟨[], (List.append_nil _).symm, nofun⟩
  exact named.onPart fun _ _ said => said

/-- What the session can be asked besides operations sends the commands for it. -/
theorem utters_own (i : Own) :
    Moves (Along (Utters fun octets => ∃ exchange ∈ (kind (σ := σ)).asks i,
      octets <+: Service.console.line exchange)) ((kind (σ := σ)).own i) := by
  have travel := travel_utters (σ := σ) fun octets => ∃ exchange ∈ (kind (σ := σ)).asks i,
    octets <+: Service.console.line exchange
  have along := Session.isTravel_along travel
  have asked (exchange : Exchange) (among : exchange ∈ (kind (σ := σ)).asks i) :
      Moves (Utters fun octets => ∃ exchange ∈ (kind (σ := σ)).asks i,
        octets <+: Service.console.line exchange) (run (σ := σ) exchange) := fun c =>
    Link.Utters.mono (utters_run exchange c) fun _ front => ⟨exchange, among, front⟩
  cases i with
  | interrogate =>
    exact Session.moves_interrogate_of travel (asked (.plain "scan_chain") List.mem_cons_self)
      (asked (.plain "riscv info") (List.mem_cons_of_mem _ List.mem_cons_self)) utters_setTapName
  | command exchange =>
    exact (Session.moves_onTransport (asked exchange List.mem_cons_self)).map along _

/-- **Sessions with the console** are of such a kind. -/
theorem lawful : (kind (σ := σ)).Lawful where
  link_withLink _ _ := rfl
  overLink := overLink
  refuses := refuses
  connect := dialled_connect
  disconnect {c} closed := by
    show (onLink (Link.hangUp (Utf8.bytes "exit\n"))).exec c = _
    rw [onLink, Action.exec_onPart, Link.exec_hangUp_of_none (l := c.link) closed]
  talks := talks
  own_keeps i := by
    cases i with
    | interrogate => exact Session.moves_interrogate
    | command exchange => exact (Session.moves_onTransport (moves_run exchange)).map stays.along _
  own_asks := utters_own
  own_refused i _ closed := by
    cases i with
    | interrogate =>
      exact Action.exec_bind_error (Session.exec_onTransport_of_unmoved (exec_executeLines_of_none closed _)) _
    | command exchange =>
      exact Action.exec_map_error (Session.exec_onTransport_of_unmoved (exec_run_of_none closed exchange)) _

end Console

namespace TclServer

variable [ByteStream σ]

/-- Sessions with the Tcl server, which can be asked to run commands besides operations. -/
def kind : SessionKind σ (TclServer σ) Exchange where
  link t := t.link
  withLink l t := { t with link := l }
  service := .tcl
  own exchange := discard (Session.onTransport (run exchange))
  asks exchange := [exchange]

section

variable {t : TclServer σ} (closed : t.link.connection = none)

include closed

theorem exec_run_of_none (exchange : Exchange) : (run exchange).exec t = (.error .notConnected, t) := by
  cases exchange with
  | plain command => exact exec_send_of_none closed command
  | printed command => exact exec_capture_of_none closed command

theorem exec_scan_of_none (i : Instruction) (value : Word) :
    (scan i value).exec t = (.error .notConnected, t) := by
  rw [scan, Action.exec_bind_ok (Action.exec_get t)]
  exact Action.exec_bind_error (Action.exec_map_error (exec_send_of_none closed _) _) _

/-- A server without a connection refuses every access. -/
theorem refuses : Transport.Refuses .notConnected t where
  write _ _ := Action.exec_bind_error (exec_capture_of_none closed _) _
  read _ := Action.exec_bind_error (exec_capture_of_none closed _) _
  writeDtmcs _ := Action.exec_map_error (exec_scan_of_none closed _ _) _
  readDtmcs := Action.exec_bind_error (exec_scan_of_none closed _ _) _
  readIdcode := Action.exec_bind_error (exec_scan_of_none closed _ _) _
  resetTap := Action.exec_map_error (exec_send_of_none closed _) _

end

theorem moves_run (exchange : Exchange) : Moves Keeps (run (σ := σ) exchange) := by
  cases exchange with
  | plain command => exact moves_send command
  | printed command => exact moves_capture command

/-- **Sessions with the Tcl server** are of such a kind. -/
theorem lawful : (kind (σ := σ)).Lawful where
  link_withLink _ _ := rfl
  overLink := overLink
  refuses := refuses
  connect t := Link.dialled_dialUnlessOpen .tcl "Tcl server" t.link
  disconnect {t} closed := by
    show (onLink (Link.hangUp (Utf8.bytes "exit" ++ [endMark]))).exec t = _
    rw [onLink, Action.exec_onPart, Link.exec_hangUp_of_none (l := t.link) closed]
  talks := talks
  own_keeps exchange := (Session.moves_onTransport (moves_run exchange)).map stays.along _
  own_asks exchange := by
    have asked : Moves (Utters fun octets => ∃ other ∈ [exchange], octets <+: Service.tcl.line other)
        (run (σ := σ) exchange) := fun t =>
      Link.Utters.mono (utters_run exchange t) fun _ front => ⟨exchange, List.mem_cons_self, front⟩
    exact (Session.moves_onTransport asked).map (Session.isTravel_along (travel_utters _)) _
  own_refused exchange _ closed :=
    Action.exec_map_error (Session.exec_onTransport_of_unmoved (exec_run_of_none closed exchange)) _

end TclServer

/-- What the adapter is asked about the target is no farewell. -/
theorem Console.not_farewell_of_interrogate [ByteStream σ] :
    ∀ exchange ∈ (Console.kind (σ := σ)).asks .interrogate,
      ¬ Service.console.farewell <+: Service.console.line exchange := by
  have apart {exchange : Exchange} (begins : Service.BeginsApart exchange.command) :
      ¬ Service.console.farewell <+: Service.console.line exchange := by
    rintro ⟨rest, line⟩
    refine Service.console.head?_line begins ?_
    rw [← line, List.head?_append, Service.head?_farewell]
    rfl
  intro exchange among
  rcases List.mem_pair.1 among with rfl | rfl
  · exact apart ⟨0x73, by decide +kernel, by decide⟩
  · exact apart ⟨0x72, by decide +kernel, by decide⟩

/-- **Once disconnected, a session with an adapter stays silent**, over every stream and whatever is asked of it,
until a connection is opened; and farewell is said once on a connection at most, unless it is what a session is
asked to send as a command. -/
theorem silent_once_disconnected [ByteStream σ] :
    (Console.kind (σ := σ)).FallsSilent ∧ (TclServer.kind (σ := σ)).FallsSilent ∧
      ∀ exchange ∈ (Console.kind (σ := σ)).asks .interrogate,
        ¬ Service.console.farewell <+: Service.console.line exchange :=
  ⟨Console.lawful.fallsSilent, TclServer.lawful.fallsSilent, Console.not_farewell_of_interrogate⟩

/-! ### A farewell that is cut off -/

namespace TclServer

/-- No adapter can be reached. -/
def outOfReach (call : SessionCall Exchange) : Occasion ScriptedStream Exchange :=
  ⟨call, fun _ => .error (.reported "refused")⟩

/-- A session over a stream that takes two octets and no more. -/
def cutOff : Session (TclServer ScriptedStream) :=
  .fresh (ofStream { room := some 2 } {} (outOfReach (.operation .connect)).dial) {}
    { clock := .steady 1 Nat.one_pos }

/-- What is asked of it once it has been disconnected. -/
def afterwards : List (Occasion ScriptedStream Exchange) :=
  [outOfReach (.operation .halt), outOfReach (.operation .connect), outOfReach (.operation .disconnect)]

/-- Two octets of the farewell are all that is sent. -/
theorem exec_disconnect_cutOff :
    Operation.disconnect.perform.exec cutOff =
      (.error (.transport .send .nothingTaken), cutOff.withTransport ⟨{ cutOff.transport.link with
        connection := none
        closed := [{ stream := { room := some 0 }, sent := [0x65, 0x78] }] }⟩) := by
  have bytes : Utf8.bytes "exit" ++ [endMark] = [0x65, 0x78, 0x69, 0x74, 0x1a] := by decide +kernel
  have said : (Connection.send (Utf8.bytes "exit" ++ [endMark])).exec
      ({ stream := { room := some 2 } } : Connection ScriptedStream) =
        (.error (.transport .send .nothingTaken), { stream := { room := some 0 }, sent := [0x65, 0x78] }) := by
    rw [bytes, Connection.send, Action.exec_bind_ok (Action.exec_log _ _ _ _), Connection.sendAll]
    show (Connection.sendAll [0x69, 0x74, 0x1a]).exec _ = _
    rw [Connection.sendAll]
    rfl
  have hung := Link.exec_hangUp (l := cutOff.transport.link) rfl (Utf8.bytes "exit" ++ [endMark])
  rw [Operation.exec_disconnect]
  show (((Link.hangUp _).exec cutOff.transport.link).1.map fun _ => Operation.Reply.done,
    cutOff.withTransport ⟨((Link.hangUp _).exec cutOff.transport.link).2⟩) = _
  rw [hung, said]
  rfl

/-- What comes after it is not sent, farewell is not said again, and a command fails. -/
theorem silent_once_disconnected_of_cutOff :
    let parted := (Operation.disconnect.perform.exec cutOff).2
    (Operation.disconnect.perform.exec cutOff).1 = .error (.transport .send .nothingTaken) ∧
      kind.sent (kind.after parted afterwards) = [0x65, 0x78] ∧
      (kind.exec (outOfReach (.own (.plain "halt"))) (kind.after parted afterwards)).1 = .error .notConnected ∧
      (kind.farewells (outOfReach (.operation .disconnect) :: afterwards) cutOff).length = 1 := by
  intro parted
  have unopened : kind.openings afterwards parted = 0 := by
    dsimp only [parted]
    rw [exec_disconnect_cutOff]
    rfl
  have falls := (silent_once_disconnected (σ := ScriptedStream)).2.1
  obtain ⟨unsent, silent⟩ := falls.silent cutOff afterwards (outOfReach (.own (.plain "halt"))) unopened
  have counted := (falls.hung_up cutOff (outOfReach (.operation .disconnect) :: afterwards)).count
  have first : kind.openings (outOfReach (.operation .disconnect) :: afterwards) cutOff =
      kind.openings afterwards parted := Nat.zero_add _
  have apart : kind.connection? (kind.after cutOff (outOfReach (.operation .disconnect) :: afterwards)) = none :=
    silent.apart
  rw [first, unopened, apart] at counted
  refine ⟨congrArg Prod.fst exec_disconnect_cutOff, unsent.trans ?_, silent.own _ rfl, counted⟩
  rw [exec_disconnect_cutOff]
  rfl

end TclServer

end HartDebug
