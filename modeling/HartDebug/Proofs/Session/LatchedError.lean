import HartDebug.Proofs.Session.Parts
import HartDebug.Proofs.Session.Polling
import HartDebug.Proofs.Target.Commands
import HartDebug.Proofs.Triples

/-!
# The error that stays latched

An abstract command that raises an exception leaves its error latched, and the module drops every command
until the error is cleared.  Operations report the error, but only two of them clear it; all others leave it
to the next one.

* `Session.Draining`, `Session.triple_pollAbstractcs_draining` — **a poll changes nothing but how busy the
  module looks**, and sees the error that is latched;
* `Session.Latched`, `Session.Keeps` — an error that is latched, and an action that leaves it as it was;
* `Session.ends_command` — a command with the wait for it, as the module has taken it;
* `Session.composes_keeps` — **an operation that reports no exception leaves the latched error as it was**;
* `Session.ends_clearCommandError` — clearing the error.
-/

namespace HartDebug.Session

open Action (Triple Ends)

variable {s b : Session SimulatedModule}

/-! ## Modules that are not connected -/

theorem exec_readDmi_refused (offline : s.transport.connected = false) (address : BusAddress) :
    (readDmi address).exec s = (.error .notConnected, s) := by
  refine Action.exec_bind_error ?_ _
  rw [exec_onTransport, SimulatedModule.exec_read_refused offline]
  rfl

/-! ## Waiting without knowing the clock -/

/-- A session that differs in how busy its module looks, and in the time that has gone by. -/
def sometime (b : Session SimulatedModule) (busyLeft : Nat) (timer : Timer) : Session SimulatedModule :=
  { b with transport := { b.transport with busyLeft := busyLeft }, timer := timer }

/-- A session in the middle of a wait that began at another one.  Nothing is in flight on a module that is
not connected. -/
def Draining (b s : Session SimulatedModule) : Prop :=
  ∃ busyLeft timer, s = b.sometime busyLeft timer ∧ (b.transport.connected = false → busyLeft = 0)

/-- A session at the end of such a wait. -/
def Drained (b s : Session SimulatedModule) : Prop :=
  ∃ timer, s = b.sometime 0 timer

/-- A wait that has ended without an answer: it was not connected, or it was out of time. -/
def Unanswered (b : Session SimulatedModule) (e : DebugError) (s : Session SimulatedModule) : Prop :=
  (e = .notConnected ∧ b.transport.connected = false ∧ Drained b s) ∨ ∃ limit, e = .busyTimeout limit

theorem sometime_self (s : Session SimulatedModule) : s = s.sometime s.transport.busyLeft s.timer := rfl

/-- A session with something in flight is in the middle of the wait for it. -/
theorem Draining.start (connected : b.transport.connected = true) : Draining b b :=
  ⟨_, _, sometime_self b, fun offline => absurd (connected.symm.trans offline) (by decide)⟩

theorem Draining.of_idle (idle : b.transport.busyLeft = 0) : Draining b b :=
  ⟨_, _, sometime_self b, fun _ => idle⟩

section

variable (free : b.transport.stuckBusy = false) (fits : b.transport.ErrorFits)

include free fits

/-- A look at the status of the module.  Where it shows no busy bit, nothing is in flight. -/
theorem triple_status_draining :
    Triple (Draining b) (readDmi .abstractcs)
      (fun status s => Draining b s ∧ CommandError.ofAbstractcs status =
        .ofCode b.transport.cmderr.toNat ∧ (Abstractcs.busy.isSet status = false → Drained b s))
      (Unanswered b) := by
  rintro _ ⟨busyLeft, timer, rfl, offline⟩
  cases connected : b.transport.connected with
  | true =>
    have unstuck : (b.sometime busyLeft timer).transport.drained =
        (b.sometime (busyLeft - 1) timer).transport := by
      rw [SimulatedModule.drained, if_neg (by simp [sometime, free])]
      rfl
    rw [exec_readDmi (s := b.sometime busyLeft timer) connected, SimulatedModule.readBus_abstractcs,
      unstuck]
    refine ⟨⟨busyLeft - 1, timer, rfl, fun off => absurd (connected.symm.trans off) (by decide)⟩,
      SimulatedModule.ofAbstractcs_abstractStatus (m := (b.sometime busyLeft timer).transport) fits,
      fun clear => ?_⟩
    have idle := SimulatedModule.isBusy_of_isSet clear
    simp only [SimulatedModule.isBusy, Bool.or_eq_false_iff, decide_eq_false_iff_not] at idle
    have none_left : ¬ 0 < busyLeft := idle.2
    obtain rfl : busyLeft = 0 := by omega
    exact ⟨timer, rfl⟩
  | false =>
    rw [exec_readDmi_refused (s := b.sometime busyLeft timer) connected]
    obtain rfl := offline connected
    exact .inl ⟨rfl, connected, timer, rfl⟩

theorem triple_pollOnce_draining (deadline : Nat) :
    Triple (Draining b) (pollOnce deadline)
      (fun seen s => match seen with
        | some status =>
          Drained b s ∧ CommandError.ofAbstractcs status = .ofCode b.transport.cmderr.toNat
        | none => Draining b s)
      (Unanswered b) := by
  refine (triple_status_draining free fits).bind fun status => ?_
  split
  · have looked : Triple (Draining b) lookAtClock (fun _ => Draining b) (Unanswered b) := by
      rintro _ ⟨busyLeft, timer, rfl, offline⟩
      exact ⟨busyLeft, timer.looked, rfl, offline⟩
    refine (looked.consequence (fun s h => h.1) (fun _ _ h => h) fun _ _ h => h).bind fun now => ?_
    split
    · intro s _
      have failed : (get >>= fun s : Session SimulatedModule => failLogged .abstractCommand
          (.busyTimeout s.config.busyTimeout) : Action DebugError _ (Option Word)).exec s =
            (.error (.busyTimeout s.config.busyTimeout), s) := exec_failLogged _ _ s
      rw [failed]
      exact .inr ⟨_, rfl⟩
    · have paused : Triple (Draining b) pause (fun _ => Draining b) (Unanswered b) := by
        rintro _ ⟨busyLeft, timer, rfl, offline⟩
        exact ⟨busyLeft, timer.wait b.config.pollInterval, rfl, offline⟩
      exact paused.bind fun _ => .pure fun s draining => draining
  · next clear =>
    exact .pure fun s seen => ⟨seen.2.2 (by simpa using clear), seen.2.1⟩

/-- **A poll changes nothing but how busy the module looks**, and sees the error that is latched. -/
theorem triple_pollUntil_draining (deadline : Nat) :
    Triple (Draining b) (pollUntil deadline : Action DebugError _ Word)
      (fun status s =>
        Drained b s ∧ CommandError.ofAbstractcs status = .ofCode b.transport.cmderr.toNat)
      (Unanswered b) :=
  triple_pollUntil_of_looks (triple_pollOnce_draining free fits deadline)

theorem triple_pollAbstractcs_draining :
    Triple (Draining b) pollAbstractcs
      (fun status s =>
        Drained b s ∧ CommandError.ofAbstractcs status = .ofCode b.transport.cmderr.toNat)
      (Unanswered b) := by
  rintro _ ⟨busyLeft, timer, rfl, offline⟩
  exact triple_pollUntil_draining free fits _ (b.sometime busyLeft timer.looked)
    ⟨busyLeft, timer.looked, rfl, offline⟩

/-- A poll, and then the failure that the latched error stands for. -/
theorem triple_verdict_draining
    {fail : CommandError → Action DebugError (Session SimulatedModule) Unit}
    {failure : CommandError → DebugError} (fails : ∀ e t, (fail e).exec t = (.error (failure e), t)) :
    Triple (Draining b)
      (do
        let abstractcs ← pollAbstractcs
        match CommandError.ofAbstractcs abstractcs with
        | .none => pure ()
        | error => fail error)
      (fun _ s => b.transport.cmderr = 0 ∧ Drained b s)
      (fun e s => (b.transport.cmderr ≠ 0 ∧ e = failure (.ofCode b.transport.cmderr.toNat) ∧
        Drained b s) ∨ Unanswered b e s) := by
  refine Triple.bind ((triple_pollAbstractcs_draining free fits).consequence (fun _ h => h)
    (fun _ _ h => h) fun _ _ unanswered => .inr unanswered) fun status => ?_
  rintro t ⟨drained, seen⟩
  by_cases clear : b.transport.cmderr = 0
  · rw [seen, clear]
    exact ⟨rfl, drained⟩
  · have latched := ofCode_cmderr_ne_none clear
    rw [seen]
    generalize CommandError.ofCode b.transport.cmderr.toNat = error at latched ⊢
    cases error with
    | none => exact absurd rfl latched
    | _ =>
      rw [fails]
      exact .inl ⟨clear, rfl, drained⟩

/-- **Waiting for a command** ends with the error that is latched, if it ends with an answer. -/
theorem triple_waitForCommand_draining :
    Triple (Draining b) waitForCommand (fun _ s => b.transport.cmderr = 0 ∧ Drained b s)
      (fun e s => (b.transport.cmderr ≠ 0 ∧ e = .command (.ofCode b.transport.cmderr.toNat) ∧
        Drained b s) ∨ Unanswered b e s) := by
  refine .get_bind fun s draining => ?_
  rw [isLive_module, if_pos rfl]
  exact triple_verdict_draining free fits
    (fun e t => Action.exec_throw (DebugError.command e) t) s draining

end

/-! ## The latched error -/

/-- Nothing is in flight on a module that is not stuck, and an error is latched, or none. -/
structure Latched (error : Word) (s : Session SimulatedModule) : Prop where
  idle : s.transport.busyLeft = 0
  free : s.transport.stuckBusy = false
  error : s.transport.cmderr = error

/-- Where an error leaves a session: out of time, or else with an exception latched if it reports one, and
with what was latched before if it reports anything else. -/
def Left (error : Word) (e : DebugError) (s : Session SimulatedModule) : Prop :=
  (∃ limit, e = .busyTimeout limit) ∨ Latched (if e = .command .exception then 3 else error) s

/-- The action leaves the latched error as it was, unless it reports an exception. -/
abbrev Keeps (error : Word) {α : Type} (x : Action DebugError (Session SimulatedModule) α) : Prop :=
  Triple (Latched error) x (fun _ => Latched error) (Left error)

variable {error : Word} {α : Type}

theorem Latched.isBusy (h : Latched error s) : s.transport.isBusy = false := by
  simp [SimulatedModule.isBusy, h.free, h.idle]

theorem Drained.latched {t : Session SimulatedModule} (drained : Drained b t)
    (free : b.transport.stuckBusy = false) : Latched b.transport.cmderr t := by
  obtain ⟨timer, rfl⟩ := drained
  exact ⟨rfl, free, rfl⟩

/-- An error that is not that of an exception leaves the latched error as it was. -/
theorem Left.of_ne {e : DebugError} (other : e ≠ .command .exception) (h : Latched error s) :
    Left error e s :=
  .inr (by rw [if_neg other]; exact h)

/-- An access that leaves an idle module idle and its error latched, and reports no error of a command. -/
theorem keeps_access {x : Action DebugError SimulatedModule α}
    (after : ∀ m, m.busyLeft = 0 → (x.exec m).2.busyLeft = 0 ∧
      (x.exec m).2.stuckBusy = m.stuckBusy ∧ (x.exec m).2.cmderr = m.cmderr ∧
      ∀ e, (x.exec m).1 = .error e → e = .notConnected) : Keeps error (onTransport x) := by
  intro s latched
  obtain ⟨idle, stuck, same, reported⟩ := after s.transport latched.idle
  have left : Latched error (s.withTransport (x.exec s.transport).2) :=
    ⟨idle, stuck.trans latched.free, same.trans latched.error⟩
  rw [exec_onTransport]
  generalize (x.exec s.transport).1 = outcome at reported
  cases outcome with
  | ok a => exact left
  | error e =>
    rw [reported e rfl]
    exact .of_ne nofun left

theorem keeps_write {address : BusAddress} (data : Word) (command : address ≠ .command)
    (status : address ≠ .abstractcs) : Keeps error (onTransport (Bus.write address data)) := by
  refine keeps_access fun m idle => ?_
  cases connected : m.connected with
  | true =>
    rw [exec_writeBus connected]
    exact ⟨(m.busyLeft_writeBus_of_ne command data).trans idle,
      (m.setUpAlike_writeBus address data).stuckBusy, m.cmderr_writeBus_of_ne status command data, nofun⟩
  | false =>
    rw [SimulatedModule.exec_write_refused connected]
    exact ⟨idle, rfl, rfl, fun _ same => (Except.error.inj same).symm⟩

theorem keeps_read (address : BusAddress) : Keeps error (onTransport (Bus.read address)) := by
  refine keeps_access fun m idle => ?_
  cases connected : m.connected with
  | true =>
    rw [exec_readBus connected, SimulatedModule.readBus_state_of_idle idle]
    exact ⟨idle, rfl, rfl, nofun⟩
  | false =>
    rw [SimulatedModule.exec_read_refused connected]
    exact ⟨idle, rfl, rfl, fun _ same => (Except.error.inj same).symm⟩

theorem keeps_writeDtmcs (value : Word) : Keeps error (onTransport (Bus.writeDtmcs value)) := by
  refine keeps_access fun m idle => ?_
  show (m.writeTransport value).busyLeft = 0 ∧ (m.writeTransport value).stuckBusy = m.stuckBusy ∧
    (m.writeTransport value).cmderr = m.cmderr ∧ _
  rw [SimulatedModule.writeTransport]
  split <;> exact ⟨idle, rfl, rfl, nofun⟩

/-! ### Commands -/

/-- The only error that is ever latched here is that of an exception. -/
theorem ofCode_of_latched (simple : error = 0 ∨ error = 3) (latched : error ≠ 0) :
    CommandError.ofCode error.toNat = .exception := by
  rw [simple.resolve_left latched]
  rfl

theorem Latched.fits (h : Latched error s) (simple : error = 0 ∨ error = 3) :
    s.transport.ErrorFits := by
  rw [SimulatedModule.ErrorFits, h.error]
  rcases simple with rfl | rfl <;> decide

/-- **A command, with the wait for it.**  What is waited for is the command as the module has taken it. -/
theorem ends_command (simple : error = 0 ∨ error = 3) (latched : Latched error s)
    (connected : s.transport.connected = true) (w : Word) :
    let begun := s.withTransport (s.transport.execute w)
    Ends (fun _ t => begun.transport.cmderr = 0 ∧ Drained begun t)
      (fun e t => (begun.transport.cmderr ≠ 0 ∧ e = .command .exception ∧ Drained begun t) ∨
        ∃ limit, e = .busyTimeout limit)
      ((do writeDmi .command w; waitForCommand : Action DebugError _ Unit).exec s) := by
  intro begun
  have same := SimulatedModule.setUpAlike_writeBus s.transport .command w
  rw [SimulatedModule.writeBus_command] at same
  have online : begun.transport.connected = true := same.connected.trans connected
  have simple' : begun.transport.cmderr = 0 ∨ begun.transport.cmderr = 3 := by
    rcases SimulatedModule.cmderr_execute latched.isBusy w with kept | raised
    · rw [show begun.transport.cmderr = error from kept.trans latched.error]
      exact simple
    · exact .inr raised
  have waited := triple_waitForCommand_draining (same.stuckBusy.trans latched.free)
    ((latched.fits simple).execute w) begun (.start online)
  rw [Action.exec_bind_ok (exec_writeDmi connected _ _), SimulatedModule.writeBus_command]
  refine waited.mono (fun _ _ h => h) fun e t failed => ?_
  rcases failed with ⟨raised, rfl, drained⟩ | ⟨-, offline, -⟩ | late
  · exact .inl ⟨raised, by rw [ofCode_of_latched simple' raised], drained⟩
  · exact absurd (online.symm.trans offline) (by decide)
  · exact .inr late

theorem keeps_command (simple : error = 0 ∨ error = 3) (w : Word) :
    Keeps error (do writeDmi .command w; waitForCommand) := by
  intro s latched
  cases connected : s.transport.connected with
  | false =>
    rw [Action.exec_bind_error (exec_writeDmi_refused connected _ _)]
    exact .of_ne nofun latched
  | true =>
    have free : (s.transport.execute w).stuckBusy = false := by
      rw [← SimulatedModule.writeBus_command]
      exact (SimulatedModule.setUpAlike_writeBus _ _ _).stuckBusy.trans latched.free
    have left := SimulatedModule.cmderr_execute latched.isBusy w
    rw [latched.error] at left
    refine (ends_command simple latched connected w).mono (fun _ t ended => ?_) fun e t failed => ?_
    · have kept : error = 0 := by
        rcases left with same | raised
        · exact same.symm.trans ended.1
        · exact absurd (raised.symm.trans ended.1) (by decide)
      rw [kept, ← ended.1]
      exact ended.2.latched free
    · rcases failed with ⟨raised, rfl, drained⟩ | late
      · have exception : (s.transport.execute w).cmderr = 3 :=
          left.elim (fun same => same.trans (simple.resolve_left (same ▸ raised))) id
        refine .inr ?_
        rw [if_pos rfl, ← exception]
        exact drained.latched free
      · exact .inl late

theorem keeps_waitForCommand (simple : error = 0 ∨ error = 3) : Keeps error waitForCommand := by
  intro s latched
  have waited := triple_waitForCommand_draining latched.free (latched.fits simple) s
    (.of_idle latched.idle)
  rw [latched.error] at waited
  refine waited.mono (fun _ t ended => latched.error ▸ ended.2.latched latched.free) fun e t failed => ?_
  rcases failed with ⟨raised, rfl, drained⟩ | ⟨rfl, -, drained⟩ | late
  · refine .inr ?_
    rw [ofCode_of_latched simple raised, if_pos rfl, ← simple.resolve_left raised, ← latched.error]
    exact drained.latched latched.free
  · exact .of_ne nofun (latched.error ▸ drained.latched latched.free)
  · exact .inl late

/-- **An operation that reports no exception leaves the latched error as it was.** -/
theorem composes_keeps (simple : error = 0 ∨ error = 3) :
    Composes (fun {α} (x : Action DebugError (Session SimulatedModule) α) => Keeps error x) where
  congr part same := Triple.congr part same
  pure _ := .pure fun _ latched => latched
  throw own := .throw fun _ latched => .of_ne (own _) latched
  log _ _ _ := .log _ _ _ fun _ latched => latched
  modify same := .modify fun s latched => by
    refine ⟨?_, ?_, ?_⟩
    · rw [same]
      exact latched.idle
    · rw [same]
      exact latched.free
    · rw [same]
      exact latched.error
  bind first second := Triple.bind first second
  get_bind h := .get_bind fun s latched => h s s latched
  write data command status := keeps_write data command status
  read := keeps_read
  writeDtmcs := keeps_writeDtmcs
  readDtmcs := keeps_access fun _ idle => ⟨idle, rfl, rfl, nofun⟩
  readIdcode := keeps_access fun _ idle => ⟨idle, rfl, rfl, nofun⟩
  resetTap := keeps_access fun _ idle => ⟨idle, rfl, rfl, nofun⟩
  command := keeps_command simple
  waitForCommand := keeps_waitForCommand simple

/-! ### Clearing the error -/

/-- **Clearing the error** leaves none, on a module that is connected. -/
theorem ends_clearCommandError (simple : error = 0 ∨ error = 3) (latched : Latched error s)
    (connected : s.transport.connected = true) :
    let cleared := s.withTransport { s.transport with cmderr := 0 }
    Ends (fun _ t => Drained cleared t) (fun e _ => ∃ limit, e = .busyTimeout limit)
      (clearCommandError.exec s) := by
  intro cleared
  have acknowledged : s.transport.writeBus .abstractcs Abstractcs.cmderr.mask = cleared.transport :=
    SimulatedModule.writeBus_cleared (latched.fits simple)
  have waited := triple_verdict_draining (b := cleared) latched.free (by decide : (0 : Word).toNat ≤ 7)
    (fun e t => exec_failLogged .abstractCommand (.protocol (.commandError e)) t)
    cleared (.start connected)
  rw [clearCommandError, Action.exec_bind_ok (exec_writeDmi connected _ _), acknowledged,
    Action.exec_bind_ok (Action.exec_get _), isLive_module, if_pos rfl]
  refine waited.mono (fun _ _ ended => ended.2) fun e t failed => ?_
  rcases failed with ⟨raised, -⟩ | ⟨-, offline, -⟩ | late
  · exact absurd rfl raised
  · exact absurd (connected.symm.trans offline) (by decide)
  · exact late

theorem triple_clearCommandError_latched (simple : error = 0 ∨ error = 3) :
    Triple (Latched error) clearCommandError (fun _ => Latched 0) (Left error) := by
  intro s latched
  cases connected : s.transport.connected with
  | true =>
    refine (ends_clearCommandError simple latched connected).mono (fun _ t drained => ?_)
      fun _ _ late => .inl late
    exact drained.latched latched.free
  | false =>
    rw [clearCommandError, Action.exec_bind_error (exec_writeDmi_refused connected _ _)]
    exact .of_ne (by simp) latched

end HartDebug.Session
