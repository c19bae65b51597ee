import HartDebug.Proofs.Session.Parts
import HartDebug.Proofs.Session.Polling
import HartDebug.Proofs.Triples
import Mathlib.Data.List.Induction

/-!
# One abstract command at a time

A debug module drops an abstract command that comes while another one is busy.  The operations of a session
never do that to a simulated module: whatever asks for a command waits for it, and a wait ends only where
the module has been seen idle, or where the time for it is over.

* `Considerate` — an access that disturbs no command;
* `Session.AtRest`, `Session.Pending` — nothing is in flight; something may be, and can be waited for;
* `triple_command`, `triple_pollUntil` — **a command leaves something in flight, and a poll brings the
  module to rest**;
* `rests_perform` — every operation leaves the module at rest, unless its wait has timed out;
* `command_only_at_rest` — **no command is issued while another is in flight**.
-/

namespace HartDebug

open Action (Triple Ends)

/-! ## The module -/

namespace SimulatedModule

theorem after_write (m : SimulatedModule) (address : BusAddress) (w : Word) :
    Access.after m (.write address w) = if m.connected then m.writeBus address w else m := by
  cases connected : m.connected with
  | true => exact congrArg Prod.snd (Session.exec_writeBus connected address w)
  | false => exact congrArg Prod.snd (exec_write_refused connected address w)

theorem after_read (m : SimulatedModule) (address : BusAddress) :
    Access.after m (.read address) = if m.connected then (m.readBus address).2 else m := by
  cases connected : m.connected with
  | true => exact congrArg Prod.snd (Session.exec_readBus connected address)
  | false => exact congrArg Prod.snd (exec_read_refused connected address)

/-- No access makes commands stay busy for good, or no longer. -/
theorem stuckBusy_after (m : SimulatedModule) (access : Access) :
    (access.after m).stuckBusy = m.stuckBusy := by
  cases access with
  | write address w =>
    rw [after_write]
    split
    · exact (setUpAlike_writeBus m address w).stuckBusy
    · rfl
  | read address =>
    rw [after_read]
    split
    · exact (setUpAlike_readBus m address).stuckBusy
    · rfl
  | writeDtmcs w =>
    show (m.writeTransport w).stuckBusy = m.stuckBusy
    rw [writeTransport]
    split <;> rfl
  | _ => rfl

end SimulatedModule

/-! ## Accesses that disturb no command -/

/-- The access disturbs no command: a command is issued only where none is busy, and errors are only ever
acknowledged altogether. -/
def Considerate (m : SimulatedModule) (access : Access) : Prop :=
  (∀ w, access = .write .command w → m.isBusy = false) ∧
    ∀ w, access = .write .abstractcs w → w = Abstractcs.cmderr.mask

/-- The access starts no command, and acknowledges errors altogether or not at all. -/
def Access.IsMild (access : Access) : Prop :=
  (∀ w, access ≠ .write .command w) ∧ ∀ w, access = .write .abstractcs w → w = Abstractcs.cmderr.mask

theorem Access.IsMild.considerate {access : Access} (h : access.IsMild) (m : SimulatedModule) :
    Considerate m access :=
  ⟨fun w command => absurd command (h.1 w), h.2⟩

theorem Access.isMild_of_ne {access : Access} (h : ∀ address w, access ≠ .write address w) :
    access.IsMild :=
  ⟨fun w => h _ w, fun w same => absurd same (h _ w)⟩

/-- A mild access to an idle module leaves it idle. -/
theorem Access.IsMild.busyLeft_after {access : Access} (h : access.IsMild) {m : SimulatedModule}
    (idle : m.busyLeft = 0) : (access.after m).busyLeft = 0 := by
  cases access with
  | write address w =>
    have other : address ≠ .command := fun same => h.1 w (by rw [same])
    rw [SimulatedModule.after_write]
    split
    · rw [m.busyLeft_writeBus_of_ne other w, idle]
    · exact idle
  | read address =>
    rw [SimulatedModule.after_read]
    split
    · rw [SimulatedModule.readBus_state_of_idle idle, idle]
    · exact idle
  | writeDtmcs w =>
    show (m.writeTransport w).busyLeft = 0
    rw [SimulatedModule.writeTransport]
    split <;> exact idle
  | _ => exact idle

/-- A considerate access never makes the module report a command as dropped. -/
theorem Considerate.cmderr_after {m : SimulatedModule} {access : Access} (h : Considerate m access)
    (clear : m.cmderr ≠ 1) : (access.after m).cmderr ≠ 1 := by
  cases access with
  | write address w =>
    rw [SimulatedModule.after_write]
    split
    · by_cases status : address = .abstractcs
      · rw [status, h.2 w (by rw [status])]
        exact m.cmderr_acknowledged
      · by_cases command : address = .command
        · have free := h.1 w (by rw [command])
          rw [command, show m.writeBus .command w = m.execute w from rfl]
          rcases SimulatedModule.cmderr_execute free w with same | exception
          · rw [same]
            exact clear
          · rw [exception]
            decide
        · rw [m.cmderr_writeBus_of_ne status command]
          exact clear
    · exact clear
  | read address =>
    rw [SimulatedModule.after_read]
    split
    · rw [SimulatedModule.cmderr_readBus]
      exact clear
    · exact clear
  | writeDtmcs w =>
    show (m.writeTransport w).cmderr ≠ 1
    rw [SimulatedModule.writeTransport]
    split <;> exact clear
  | _ => exact clear

/-- **No command is ever dropped** along considerate accesses, by induction on them. -/
theorem Recorded.Allowed.cmderr_ne_one {origin : SimulatedModule} {r : Recorded SimulatedModule}
    (h : r.Allowed Considerate origin) (clear : origin.cmderr ≠ 1) {before after : List Entry}
    (split : r.record = before ++ after) : (replay origin before).cmderr ≠ 1 := by
  induction before using List.reverseRecOn generalizing after with
  | nil => exact clear
  | append_singleton before entry ih =>
    rw [List.append_assoc, List.singleton_append] at split
    rw [replay_append]
    exact (h.each before entry after split).cmderr_after (ih split)

/-! ## Sessions -/

namespace Session

open Recorded (enter)

/-- A session on a module that was `origin` when its record began; all its accesses were considerate. -/
structure Attended (origin : SimulatedModule) (s : Session (Recorded SimulatedModule)) : Prop where
  allowed : s.transport.Allowed Considerate origin
  free : s.transport.bus.stuckBusy = false

/-- Nothing is in flight. -/
structure AtRest (origin : SimulatedModule) (s : Session (Recorded SimulatedModule)) : Prop
    extends Attended origin s where
  idle : s.transport.bus.busyLeft = 0

/-- Something may be in flight, but then it can be waited for. -/
structure Pending (origin : SimulatedModule) (s : Session (Recorded SimulatedModule)) : Prop
    extends Attended origin s where
  reachable : s.transport.bus.busyLeft = 0 ∨ s.transport.bus.connected = true

/-- Where an error may leave a session: at rest, or with a wait that has timed out. -/
def Leaves (origin : SimulatedModule) (e : DebugError) (s : Session (Recorded SimulatedModule)) : Prop :=
  AtRest origin s ∨ Attended origin s ∧ ∃ limit, e = .busyTimeout limit

/-- The action keeps a session at rest, unless a wait times out in it. -/
abbrev Rests (origin : SimulatedModule) {α : Type}
    (x : Action DebugError (Session (Recorded SimulatedModule)) α) : Prop :=
  Triple (AtRest origin) x (fun _ => AtRest origin) (Leaves origin)

variable {origin : SimulatedModule} {α : Type}

theorem AtRest.pending {s : Session (Recorded SimulatedModule)} (h : AtRest origin s) :
    Pending origin s :=
  ⟨h.toAttended, .inl h.idle⟩

theorem AtRest.isBusy {s : Session (Recorded SimulatedModule)} (h : AtRest origin s) :
    s.transport.bus.isBusy = false := by
  simp [SimulatedModule.isBusy, h.free, h.idle]

/-- One more access that is considerate. -/
theorem Attended.entered {s : Session (Recorded SimulatedModule)} (h : Attended origin s)
    {access : Access} (here : Considerate s.transport.bus access) (answer : Answer) :
    Attended origin (s.withTransport
      ⟨access.after s.transport.bus, s.transport.record ++ [⟨access, answer⟩]⟩) where
  allowed := h.allowed.entered here answer
  free := (SimulatedModule.stuckBusy_after _ access).trans h.free

/-! ### Single accesses -/

/-- A mild access keeps a session at rest, whatever it is answered. -/
theorem rests_enter {access : Access} (mild : access.IsMild) (answer : α → Answer)
    {x : Action DebugError SimulatedModule α} (leaves : ∀ m, (x.exec m).2 = access.after m) :
    Rests origin (onTransport (enter access answer x)) := by
  intro s rest
  have idle := mild.busyLeft_after rest.idle
  have after : ∀ answer, AtRest origin (s.withTransport
      ⟨access.after s.transport.bus, s.transport.record ++ [⟨access, answer⟩]⟩) := fun answer =>
    ⟨rest.toAttended.entered (mild.considerate _) answer, idle⟩
  rw [exec_onTransport, Recorded.exec_enter, leaves]
  cases (x.exec s.transport.bus).1 with
  | ok a => exact after _
  | error e => exact .inl (after _)

theorem isMild_write {address : BusAddress} {w : Word} (command : address ≠ .command)
    (status : address = .abstractcs → w = Abstractcs.cmderr.mask) : (Access.write address w).IsMild := by
  refine ⟨fun w' same => ?_, fun w' same => ?_⟩
  · cases same
    exact command rfl
  · cases same
    exact status rfl

theorem rests_failLogged (source : Source) (e : DebugError) :
    Rests origin (failLogged source e : Action DebugError (Session (Recorded SimulatedModule)) α) := by
  intro s rest
  rw [exec_failLogged]
  exact .inl rest

theorem rests_log (level : Level) (source : Source) (text : String) :
    Rests origin (Action.log level source text) :=
  .log level source text fun _ rest => rest

theorem rests_pure (a : α) : Rests origin (pure a) :=
  .pure fun _ rest => rest

theorem rests_throw (e : DebugError) :
    Rests origin (throw e : Action DebugError (Session (Recorded SimulatedModule)) α) :=
  .throw fun _ rest => .inl rest

/-- What a session remembers besides its transport makes no difference. -/
theorem rests_modify {f : Session (Recorded SimulatedModule) → Session (Recorded SimulatedModule)}
    (h : ∀ s, (f s).transport = s.transport) : Rests origin (modify f) := by
  refine .modify fun s rest => ⟨⟨?_, ?_⟩, ?_⟩
  · rw [h]
    exact rest.allowed
  · rw [h]
    exact rest.free
  · rw [h]
    exact rest.idle

theorem rests_get_bind {f : Session (Recorded SimulatedModule) →
      Action DebugError (Session (Recorded SimulatedModule)) α}
    (h : ∀ s, Rests origin (f s)) : Rests origin (get >>= f) :=
  .get_bind fun s rest => h s s rest

theorem rests_writeDmi {address : BusAddress} {w : Word} (command : address ≠ .command)
    (status : address = .abstractcs → w = Abstractcs.cmderr.mask) :
    Rests origin (writeDmi address w) :=
  (rests_log _ _ _).bind fun _ =>
    rests_enter (isMild_write command status) _ fun _ => rfl

/-! ### Commands, and waiting for them -/

/-- **A command leaves something in flight** that can be waited for; one that does not get through leaves
the module at rest. -/
theorem triple_command (w : Word) :
    Triple (AtRest origin) (writeDmi .command w) (fun _ => Pending origin) (Leaves origin) := by
  intro s rest
  have considerate : Considerate s.transport.bus (.write .command w) :=
    ⟨fun _ _ => rest.isBusy, fun _ other => by cases other⟩
  have after := rest.toAttended.entered considerate
  rw [exec_writeDmi_recorded]
  cases connected : s.transport.bus.connected with
  | true =>
    rw [exec_writeBus connected]
    refine ⟨after _, .inr ?_⟩
    show (Access.after s.transport.bus (.write .command w)).connected = true
    rw [SimulatedModule.after_write, if_pos connected, ← connected]
    exact (SimulatedModule.setUpAlike_writeBus _ _ _).connected
  | false =>
    rw [SimulatedModule.exec_write_refused connected]
    refine .inl ⟨after _, ?_⟩
    show (Access.after s.transport.bus (.write .command w)).busyLeft = 0
    rw [SimulatedModule.after_write, if_neg (by rw [connected]; decide), rest.idle]

/-- A look at the status: where it shows no busy bit, the module is at rest. -/
theorem triple_status :
    Triple (Pending origin) (readDmi .abstractcs)
      (fun status s => Pending origin s ∧ (Abstractcs.busy.isSet status = false → AtRest origin s))
      (Leaves origin) := by
  intro s pending
  have mild : (Access.read .abstractcs).IsMild := Access.isMild_of_ne nofun
  have after := pending.toAttended.entered (mild.considerate _)
  rw [exec_readDmi_recorded]
  cases connected : s.transport.bus.connected with
  | true =>
    have drained : Access.after s.transport.bus (.read .abstractcs) = s.transport.bus.drained := by
      rw [SimulatedModule.after_read, if_pos connected, SimulatedModule.readBus_abstractcs]
    rw [exec_readBus connected, SimulatedModule.readBus_abstractcs]
    refine ⟨⟨after _, .inr ?_⟩, fun clear => ⟨after _, ?_⟩⟩
    · show (Access.after s.transport.bus (.read .abstractcs)).connected = true
      rw [drained, ← connected]
      exact (SimulatedModule.setUpAlike_drained _).connected
    · show (Access.after s.transport.bus (.read .abstractcs)).busyLeft = 0
      have free := SimulatedModule.isBusy_of_isSet clear
      simp only [SimulatedModule.isBusy, Bool.or_eq_false_iff, decide_eq_false_iff_not] at free
      rw [drained, SimulatedModule.drained, if_neg (by simp [free.1])]
      show s.transport.bus.busyLeft - 1 = 0
      omega
  | false =>
    rw [SimulatedModule.exec_read_refused connected]
    refine .inl ⟨after _, ?_⟩
    show (Access.after s.transport.bus (.read .abstractcs)).busyLeft = 0
    rw [SimulatedModule.after_read, if_neg (by rw [connected]; decide)]
    exact pending.reachable.resolve_right (by rw [connected]; decide)

/-- One look: after it the module is at rest, or the wait goes on. -/
theorem triple_pollOnce (deadline : Nat) :
    Triple (Pending origin) (pollOnce deadline)
      (fun seen s => match seen with
        | some _ => AtRest origin s
        | none => Pending origin s)
      (Leaves origin) := by
  refine triple_status.bind fun status => ?_
  split
  · have looked : Triple (Pending origin) lookAtClock (fun _ => Pending origin) (Leaves origin) :=
      fun s pending => ⟨⟨pending.allowed, pending.free⟩, pending.reachable⟩
    refine (looked.consequence (fun s h => h.1) (fun _ _ h => h) fun _ _ h => h).bind fun now => ?_
    split
    · intro s pending
      have failed : (get >>= fun s : Session (Recorded SimulatedModule) => failLogged .abstractCommand
          (.busyTimeout s.config.busyTimeout) : Action DebugError _ (Option Word)).exec s =
            (.error (.busyTimeout s.config.busyTimeout), s) := exec_failLogged _ _ s
      rw [failed]
      exact .inr ⟨pending.toAttended, _, rfl⟩
    · have paused : Triple (Pending origin) pause (fun _ => Pending origin) (Leaves origin) :=
        fun s pending => ⟨⟨pending.allowed, pending.free⟩, pending.reachable⟩
      exact paused.bind fun _ => .pure fun s pending => pending
  · next clear =>
    exact .pure fun s seen => seen.2 (by simpa using clear)

/-- **A poll brings the module to rest**, or times out. -/
theorem triple_pollUntil (deadline : Nat) :
    Triple (Pending origin) (pollUntil deadline : Action DebugError _ Word) (fun _ => AtRest origin)
      (Leaves origin) :=
  triple_pollUntil_of_looks (triple_pollOnce deadline)

theorem triple_pollAbstractcs :
    Triple (Pending origin) pollAbstractcs (fun _ => AtRest origin) (Leaves origin) := by
  intro s pending
  exact triple_pollUntil _ { s with timer := s.timer.looked }
    ⟨⟨pending.allowed, pending.free⟩, pending.reachable⟩

/-- **Waiting brings the module to rest**, whatever error the command has left. -/
theorem triple_waitForCommand :
    Triple (Pending origin) waitForCommand (fun _ => AtRest origin) (Leaves origin) := by
  refine .get_bind fun s pending => ?_
  rw [isLive_eq_true, if_pos rfl]
  refine triple_pollAbstractcs.bind (fun status => ?_) s pending
  split
  · exact rests_pure ()
  · exact rests_throw _

theorem rests_waitForCommand : Rests origin waitForCommand :=
  triple_waitForCommand.consequence (fun _ rest => rest.pending) (fun _ _ h => h) fun _ _ h => h

theorem rests_clearCommandError : Rests origin clearCommandError := by
  refine (rests_writeDmi (by decide) fun _ => rfl).bind fun _ => .get_bind fun s rest => ?_
  rw [isLive_eq_true, if_pos rfl]
  refine triple_pollAbstractcs.bind (fun status => ?_) s rest.pending
  split
  · exact rests_pure ()
  · exact rests_failLogged _ _

/-! ### Operations -/

/-- **What the parts of an operation keep at rest, the operation does.** -/
theorem composes_rests :
    Composes (fun {α} (x : Action DebugError (Session (Recorded SimulatedModule)) α) => Rests origin x) where
  congr part same := Triple.congr part same
  pure := rests_pure
  throw _ := rests_throw _
  log := rests_log
  modify := rests_modify
  bind first second := Triple.bind first second
  get_bind := rests_get_bind
  write _ command status :=
    rests_enter (isMild_write command fun same => absurd same status) _ fun _ => rfl
  read _ := rests_enter (Access.isMild_of_ne (by nofun)) _ fun _ => rfl
  writeDtmcs _ := rests_enter (Access.isMild_of_ne (by nofun)) _ fun _ => rfl
  readDtmcs := rests_enter (Access.isMild_of_ne (by nofun)) _ fun _ => rfl
  readIdcode := rests_enter (Access.isMild_of_ne (by nofun)) _ fun _ => rfl
  resetTap := rests_enter (Access.isMild_of_ne (by nofun)) _ fun _ => rfl
  command w := (triple_command w).bind fun _ => triple_waitForCommand
  waitForCommand := rests_waitForCommand

/-- A register that is not implemented ends the dump with its error acknowledged; any other error goes on
to the caller as it is. -/
theorem rests_dumpNames (group : RegisterGroup) (width : Option TransferWidth) :
    ∀ names : List String, Rests origin (dumpNames group width names)
  | [] => rests_pure []
  | name :: rest => by
    refine (composes_rests.parts.readRegister name width).attempt.bind fun outcome => ?_
    split
    · exact (rests_dumpNames group width rest).bind fun others => rests_pure _
    · have excepted : ∀ s, Ends (fun _ => AtRest origin) (Leaves origin)
          ((.error (.command .exception) : Except DebugError Value), s) → AtRest origin s := by
        rintro s (rest | ⟨-, limit, timed_out⟩)
        · exact rest
        · cases timed_out
      refine Triple.consequence ?_ excepted (fun _ _ h => h) fun _ _ h => h
      exact (rests_log _ _ _).bind fun _ => rests_clearCommandError.bind fun _ => rests_pure _
    · exact .throw fun s left => left

/-- **Every operation keeps the module at rest**, unless its wait times out.  Only a raw write could do
otherwise. -/
theorem rests_perform {op : Operation} (cooked : ∀ address data, op ≠ .writeDmi address data) :
    Rests origin (op.perform (τ := Recorded SimulatedModule)) :=
  composes_rests.parts.perform cooked
    (fun _ => rests_enter (Access.isMild_of_ne (by nofun)) _ fun _ => rfl)
    (fun _ => rests_enter (Access.isMild_of_ne (by nofun)) _ fun _ => rfl)
    (fun _ => rests_clearCommandError) fun group width _ => rests_dumpNames group width _

/-! ### Sequences of operations -/

/-- **Operations whose waits do not time out keep the module at rest.** -/
theorem AtRest.performEach {ops : List Operation}
    (cooked : ∀ op ∈ ops, ∀ address data, op ≠ .writeDmi address data)
    {s t : Session (Recorded SimulatedModule)} (rest : AtRest origin s)
    {outcomes : List (Except DebugError Operation.Reply)}
    (ran : (Operation.performEach ops).exec s = (.ok outcomes, t))
    (in_time : ∀ limit, .error (.busyTimeout limit) ∉ outcomes) : AtRest origin t := by
  refine performEach_carries (i := ()) (fun _ _ => ()) (fun _ => AtRest origin)
    (fun op mem _ s rest outcome s' ran => ?_) rest ran in_time
  have ended := rests_perform (cooked op mem) s rest
  rw [ran] at ended
  cases outcome with
  | ok reply => exact .inl ended
  | error e => exact ended.imp_right fun ⟨_, limit, same⟩ => ⟨limit, congrArg Except.error same⟩

/-- **No command is issued while another is in flight.**  A module begins with nothing in flight and is not
stuck; it may look busy for any number of reads after each command, and the clock may go as it likes.
Operations run on it, failing or not, raw writes apart.  As long as none of them has timed out, nothing is
left in flight after them.  Up to the first that times out, and to the end of that one, the module is not
busy at any write to `command`, and so never reports a command as dropped, unless it did from the start. -/
theorem command_only_at_rest {s : Session SimulatedModule} (idle : s.transport.busyLeft = 0)
    (free : s.transport.stuckBusy = false) {done : List Operation} {op : Operation}
    (cooked : ∀ op' ∈ done ++ [op], ∀ address data, op' ≠ .writeDmi address data)
    {outcomes : List (Except DebugError Operation.Reply)} {t : Session SimulatedModule}
    (ran : (Operation.performEach done).exec s = (.ok outcomes, t))
    (in_time : ∀ limit, .error (.busyTimeout limit) ∉ outcomes) :
    let record := ((Operation.performEach (done ++ [op])).exec s.recorded).2.transport.record
    t.transport.busyLeft = 0 ∧
    Recorded.replay s.transport record = (op.perform.exec t).2.transport ∧
    (∀ before entry after data, record = before ++ entry :: after →
      entry.access = .write .command data → (Recorded.replay s.transport before).isBusy = false) ∧
    (s.transport.cmderr ≠ 1 → ∀ before after, record = before ++ after →
      (Recorded.replay s.transport before).cmderr ≠ 1) := by
  intro record
  have start : AtRest s.transport s.recorded := ⟨⟨.start Considerate s.transport, free⟩, idle⟩
  obtain ⟨same, alike⟩ := simulates_performEach_recorded done s.recorded s (alike_recorded s)
  rw [ran] at same alike
  have split := Operation.exec_performEach_append done [op] s.recorded
  generalize middle : (Operation.performEach done).exec s.recorded = reached at same alike split
  obtain ⟨outcomes', t'⟩ := reached
  obtain rfl : outcomes' = .ok outcomes := same
  have rest : AtRest s.transport t' :=
    start.performEach (fun op' mem => cooked op' (List.mem_append_left _ mem)) middle in_time
  have beneath : t'.transport.bus = t.transport := alike.transport
  -- The last operation may time out, but it does not disturb anything before it does.
  have attended : Attended s.transport (op.perform.exec t').2 := by
    have last := rests_perform (cooked op (by simp)) t' rest
    generalize op.perform.exec t' = ended at last ⊢
    obtain ⟨outcome, t''⟩ := ended
    cases outcome with
    | ok reply => exact last.toAttended
    | error e => exact last.elim (·.toAttended) (·.1)
  have ended : ((Operation.performEach (done ++ [op])).exec s.recorded).2 = (op.perform.exec t').2 := by
    rw [split, Operation.exec_performEach_cons]
    rfl
  have behind : (op.perform.exec t').2.transport.bus = (op.perform.exec t).2.transport :=
    (simulates_perform_recorded op t' t alike).2.transport
  have allowed := attended.allowed
  rw [← ended] at allowed behind
  refine ⟨beneath ▸ rest.idle, ?_, ?_, ?_⟩
  · rw [← behind]
    exact allowed.replayed.symm
  · intro before entry after data cut command
    exact (allowed.each before entry after cut).1 data command
  · intro clear before after cut
    exact allowed.cmderr_ne_one clear cut

/-- A program that looks busy for two reads, and another one after it. -/
theorem command_only_at_rest_between_programs :
    ∃ (s t : Session SimulatedModule) (outcomes : List (Except DebugError Operation.Reply)),
      let done : List Operation := [.executeProgram]
      let op : Operation := .executeProgram
      let record := ((Operation.performEach (done ++ [op])).exec s.recorded).2.transport.record
      (s.transport.busyLeft = 0 ∧ s.transport.stuckBusy = false ∧ s.transport.busyReads = 2 ∧
        (∀ op' ∈ done ++ [op], ∀ address data, op' ≠ .writeDmi address data) ∧
        (Operation.performEach done).exec s = (.ok outcomes, t) ∧
        ∀ limit, .error (.busyTimeout limit) ∉ outcomes) ∧
      t.transport.busyLeft = 0 ∧
      Recorded.replay s.transport record = (op.perform.exec t).2.transport ∧
      (∀ before entry after data, record = before ++ entry :: after →
        entry.access = .write .command data → (Recorded.replay s.transport before).isBusy = false) ∧
      (s.transport.cmderr ≠ 1 → ∀ before after, record = before ++ after →
        (Recorded.replay s.transport before).cmderr ≠ 1) := by
  let m : SimulatedModule := { connected := true, busyReads := 2 }
  let s : Session SimulatedModule := .fresh m {} { clock := .steady 1 (by decide) }
  let begun := s.withTransport (m.writeBus .command AccessRegister.execute)
  have in_time : begun.DrainsInTime := by
    intro i hi
    have below : i < 2 := hi
    show (0 + 1 + i) * 1 + 0 + i * 50000000 < 0 * 1 + 0 + 2000000000
    omega
  have waited : waitForCommand.exec begun = (.ok (), begun.polled) :=
    exec_waitForCommand rfl (by decide) rfl in_time
  have ran : (Operation.performEach [.executeProgram]).exec s = (.ok [.ok .done], begun.polled) := by
    have program : executeProgram.exec s = (.ok (), begun.polled) := by
      rw [executeProgram, Action.exec_bind_ok (Action.exec_log _ _ _ s),
        Action.exec_bind_ok (exec_writeDmi rfl _ _), Action.exec_bind_ok (Action.exec_get _),
        isLive_module, if_pos rfl]
      exact waited
    rw [Operation.exec_performEach_cons, Operation.perform, Action.exec_bind_ok program]
    rfl
  have cooked : ∀ op' ∈ [Operation.executeProgram] ++ [.executeProgram], ∀ address data,
      op' ≠ .writeDmi address data := by
    simp
  have none_late : ∀ limit, .error (DebugError.busyTimeout limit) ∉
      [Except.ok Operation.Reply.done] := by
    simp
  refine ⟨s, begun.polled, [.ok .done], ⟨rfl, rfl, rfl, cooked, ran, none_late⟩, ?_⟩
  exact command_only_at_rest rfl rfl cooked ran none_late

end Session

end HartDebug
