import HartDebug.Proofs.Target.AbstractStatus
import HartDebug.Proofs.Target.Frame
import HartDebug.Proofs.Triples
import HartDebug.Session.AbstractCommand

/-!
# Sessions on a simulated module

What the accesses of a session do to a simulated module that is connected, and how long a session polls
it.  A command that looks busy for a number of reads is seen busy that often and no more; the poll gives up
only if the clock reaches the deadline before.

* `exec_writeDmi`, `exec_readDmi`, `exec_expectDmi` — single accesses;
* `exec_pollUntil`, `induction_on_looks` — one look, and then the rest of the poll;
* `triple_pollUntil_of_looks` — **what a look carries over to the next, a poll does**;
* `DrainsBefore` — every look that sees the command busy comes before an instant;
* `exec_pollUntil_of_drains` — **a command that drains in time is waited for**, look by look;
* `exec_waitForCommand` — the error that the command left is the answer.
-/

namespace HartDebug.Session

/-! ### One look after another -/

/-- A read of the bus answers what the transport does. -/
theorem exec_readDmi_of_read {τ : Type} [Transport τ] (address : BusAddress) (s : Session τ) :
    (readDmi address).exec s = (((Bus.read address).exec s.transport).1,
      s.withTransport ((Bus.read address).exec s.transport).2) := by
  unfold readDmi
  rw [Action.exec_bind, exec_onTransport]
  rcases (Bus.read address).exec s.transport with ⟨_ | data, t⟩ <;> rfl

/-- A poll is one look and, if that has ended in a pause, the rest of the poll. -/
theorem exec_pollUntil {τ : Type} [Transport τ] (deadline : Nat) (s : Session τ) :
    Action.exec (pollUntil deadline) s =
      match (pollOnce deadline).exec s with
      | (.error e, t) => (.error e, t)
      | (.ok (some abstractcs), t) => (.ok abstractcs, t)
      | (.ok none, t) => Action.exec (pollUntil deadline) t := by
  unfold Action.exec Action.run
  rw [pollUntil.eq_def]
  dsimp only
  split
  · next e failed => rw [failed]
  · next abstractcs finished => rw [finished]
  · next paused => rw [paused]

/-- What holds of a session if it holds after a look that has ended in a pause, holds of every session: looks bring
the deadline nearer. -/
theorem induction_on_looks {τ : Type} [Transport τ] (deadline : Nat) {motive : Session τ → Prop}
    (look : ∀ s, (∀ t, (pollOnce deadline).exec s = (.ok none, t) → motive t) → motive s) (s : Session τ) :
    motive s := by
  generalize left : s.timer.looksLeft deadline = n
  induction n using Nat.strongRecOn generalizing s with
  | ind n ih =>
    refine look s fun t paused => ?_
    have nearer := looksLeft_pollOnce deadline s
    rw [paused] at nearer
    exact ih (t.timer.looksLeft deadline) (left ▸ nearer rfl) t rfl

/-- **What a look carries over to the next, a poll does**, with what it promises of its last look. -/
theorem triple_pollUntil_of_looks {τ : Type} [Transport τ] {deadline : Nat} {pre : Session τ → Prop}
    {post : Word → Session τ → Prop} {fails : DebugError → Session τ → Prop}
    (look : Action.Triple pre (pollOnce deadline)
      (fun seen s => match seen with
        | some abstractcs => post abstractcs s
        | none => pre s)
      fails) : Action.Triple pre (pollUntil deadline) post fails := by
  refine induction_on_looks deadline fun s rest begun => ?_
  have looked := look s begun
  rw [exec_pollUntil]
  generalize (pollOnce deadline).exec s = ran at looked rest
  obtain ⟨outcome, t⟩ := ran
  rcases outcome with e | _ | abstractcs
  · exact looked
  · exact rest t rfl looked
  · exact looked

/-! ### Single accesses -/

variable {s : Session SimulatedModule}

theorem exec_writeBus {m : SimulatedModule} (h : m.connected = true) (address : BusAddress) (data : Word) :
    (Bus.write address data : Action DebugError SimulatedModule Unit).exec m =
      (.ok (), m.writeBus address data) := by
  simp only [Bus.write, Action.exec_bind, SimulatedModule.requireConnected, Action.exec_get, h]
  rfl

theorem exec_readBus {m : SimulatedModule} (h : m.connected = true) (address : BusAddress) :
    (Bus.read address : Action DebugError SimulatedModule Word).exec m =
      (.ok (m.readBus address).1, (m.readBus address).2) := by
  simp only [Bus.read, Action.exec_bind, SimulatedModule.requireConnected, Action.exec_get, h]
  rfl

theorem exec_writeDmi (h : s.transport.connected = true) (address : BusAddress) (data : Word) :
    (writeDmi address data).exec s = (.ok (), s.withTransport (s.transport.writeBus address data)) := by
  unfold writeDmi onTransport
  simp only [Action.exec_bind, Action.exec_log, Action.exec_onPart, exec_writeBus h]

theorem exec_readDmi (h : s.transport.connected = true) (address : BusAddress) :
    (readDmi address).exec s =
      (.ok (s.transport.readBus address).1, s.withTransport (s.transport.readBus address).2) := by
  unfold readDmi onTransport
  simp only [Action.exec_bind, Action.exec_onPart, exec_readBus h, Action.exec_log, Action.exec_pure]

theorem exec_writeDmi_refused (offline : s.transport.connected = false) (address : BusAddress)
    (data : Word) : (writeDmi address data).exec s = (.error .notConnected, s) := by
  rw [writeDmi, Action.exec_bind_ok (Action.exec_log _ _ _ s), exec_onTransport,
    SimulatedModule.exec_write_refused offline]
  rfl

/-- An expectation reads the register and compares. -/
theorem exec_expectDmi (h : s.transport.connected = true) (address : BusAddress) (expected mask : Word)
    (failure : String) :
    (expectDmi address expected mask failure).exec s =
      (if (s.transport.readBus address).1 &&& mask = expected &&& mask then .ok ()
        else .error (.protocol
          (.mismatch failure address (s.transport.readBus address).1 expected mask)),
        s.withTransport (s.transport.readBus address).2) := by
  have compared : (Transport.expect address expected mask).exec s.transport =
      (.ok (if (s.transport.readBus address).1 &&& mask = expected &&& mask then .passed
        else .failed (s.transport.readBus address).1), (s.transport.readBus address).2) := by
    show (Bus.readAndCompare address expected mask).exec s.transport = _
    rw [Bus.readAndCompare, Action.exec_bind_ok (exec_readBus h address)]
    split <;> rfl
  unfold expectDmi onTransport
  rw [Action.exec_bind, Action.exec_onPart, compared]
  by_cases same : (s.transport.readBus address).1 &&& mask = expected &&& mask
  · rw [if_pos same, if_pos same]
    rfl
  · rw [if_neg same, if_neg same]
    rfl

/-! ### Polling -/

/-- The session after `k` looks that have each ended in a pause. -/
def afterPauses (s : Session SimulatedModule) (k : Nat) : Session SimulatedModule :=
  { s with
    transport := { s.transport with busyLeft := s.transport.busyLeft - k }
    timer :=
      { s.timer with
        looks := s.timer.looks + k
        waited := s.timer.waited + k * s.config.pollInterval.nanoseconds } }

theorem afterPauses_zero (s : Session SimulatedModule) : s.afterPauses 0 = s := by
  simp [afterPauses]

theorem afterPauses_succ (s : Session SimulatedModule) (k : Nat) :
    (s.afterPauses 1).afterPauses k = s.afterPauses (k + 1) := by
  simp only [afterPauses, Session.mk.injEq, SimulatedModule.mk.injEq, Timer.mk.injEq, true_and, and_true]
  refine ⟨by omega, by omega, ?_⟩
  rw [Nat.add_mul]
  omega

/-- Every look that sees the command busy comes before an instant. -/
def DrainsBefore (s : Session SimulatedModule) (deadline : Nat) : Prop :=
  ∀ i < s.transport.busyLeft,
    s.timer.clock.reading (s.timer.looks + i) + s.timer.waited +
      i * s.config.pollInterval.nanoseconds < deadline

theorem DrainsBefore.afterPause {deadline : Nat} (h : s.DrainsBefore deadline) :
    (s.afterPauses 1).DrainsBefore deadline := by
  intro i hi
  have left : i < s.transport.busyLeft - 1 := hi
  have later := h (i + 1) (by omega)
  rw [Nat.add_mul] at later
  show s.timer.clock.reading (s.timer.looks + 1 + i) +
    (s.timer.waited + 1 * s.config.pollInterval.nanoseconds) +
      i * s.config.pollInterval.nanoseconds < deadline
  rw [show s.timer.looks + 1 + i = s.timer.looks + (i + 1) by omega]
  omega

/-- A look at an idle module is the end of the poll. -/
theorem exec_pollOnce_of_idle (connected : s.transport.connected = true)
    (fits : s.transport.ErrorFits) (idle : s.transport.isBusy = false) (deadline : Nat) :
    (pollOnce deadline).exec s = (.ok (some s.transport.abstractStatus), s) := by
  have left : s.transport.busyLeft = 0 := by
    simp only [SimulatedModule.isBusy, Bool.or_eq_false_iff, decide_eq_false_iff_not] at idle
    omega
  rw [pollOnce, Action.exec_bind_ok (exec_readDmi connected _),
    SimulatedModule.readBus_state_of_idle left, SimulatedModule.readBus_abstractcs]
  dsimp only
  rw [SimulatedModule.isSet_busy_abstractStatus fits, idle]
  rfl

/-- A look at a busy module ends in a pause, if it comes in time. -/
theorem exec_pollOnce_of_busy (connected : s.transport.connected = true)
    (fits : s.transport.ErrorFits) (free : s.transport.stuckBusy = false)
    (busy : 0 < s.transport.busyLeft) {deadline : Nat} (in_time : s.timer.now < deadline) :
    (pollOnce deadline).exec s = (.ok none, s.afterPauses 1) := by
  have seen : s.transport.isBusy = true := by simp [SimulatedModule.isBusy, busy]
  have drained : s.transport.drained = { s.transport with busyLeft := s.transport.busyLeft - 1 } := by
    rw [SimulatedModule.drained, if_neg (by simp [free])]
  rw [pollOnce, Action.exec_bind_ok (exec_readDmi connected _), SimulatedModule.readBus_abstractcs]
  dsimp only
  rw [SimulatedModule.isSet_busy_abstractStatus fits, seen, if_pos rfl, drained]
  unfold lookAtClock pause
  simp only [Action.exec_bind, Action.exec_get, Action.exec_set, Action.exec_pure]
  rw [if_neg (by simpa [withTransport] using in_time)]
  simp only [Action.exec_bind, Action.exec_get, Action.exec_log, Action.exec_modify, Action.exec_pure]
  simp [withTransport, afterPauses, Timer.looked, Timer.wait]

/-- **A command that drains in time is waited for.**  The induction is on the reads that still see it
busy; each of them ends in a pause, and the read after the last of them finds the module idle. -/
theorem exec_pollUntil_of_drains (connected : s.transport.connected = true)
    (fits : s.transport.ErrorFits) (free : s.transport.stuckBusy = false) {deadline : Nat}
    (drains : s.DrainsBefore deadline) :
    Action.exec (pollUntil deadline) s =
      (.ok (s.afterPauses s.transport.busyLeft).transport.abstractStatus,
        s.afterPauses s.transport.busyLeft) := by
  generalize left : s.transport.busyLeft = k
  induction k generalizing s with
  | zero =>
    have idle : s.transport.isBusy = false := by simp [SimulatedModule.isBusy, free, left]
    rw [exec_pollUntil, exec_pollOnce_of_idle connected fits idle, afterPauses_zero]
  | succ k ih =>
    have in_time : s.timer.now < deadline := by
      have first := drains 0 (by omega)
      rw [Nat.zero_mul] at first
      exact first
    have rest := ih (s := s.afterPauses 1) connected fits free drains.afterPause
      (show s.transport.busyLeft - 1 = k by omega)
    rw [exec_pollUntil, exec_pollOnce_of_busy connected fits free (by omega) in_time]
    dsimp only
    rw [rest, afterPauses_succ]

/-- The command in flight drains within the time that the settings allow from now on. -/
def DrainsInTime (s : Session SimulatedModule) : Prop :=
  DrainsBefore { s with timer := s.timer.looked } (s.timer.now + s.config.busyTimeout.nanoseconds)

/-- The session after a poll: the command has finished, and time has gone by. -/
def polled (s : Session SimulatedModule) : Session SimulatedModule :=
  afterPauses { s with timer := s.timer.looked } s.transport.busyLeft

/-- On an idle module a poll is a single look, and there is nothing to drain. -/
theorem polled_of_idle (idle : s.transport.busyLeft = 0) :
    s.polled = { s with timer := s.timer.looked } := by
  rw [polled, idle, afterPauses_zero]

theorem drainsInTime_of_idle (idle : s.transport.busyLeft = 0) : s.DrainsInTime := by
  intro i hi
  have left : i < s.transport.busyLeft := hi
  omega

theorem exec_pollAbstractcs (connected : s.transport.connected = true) (fits : s.transport.ErrorFits)
    (free : s.transport.stuckBusy = false) (drains : s.DrainsInTime) :
    pollAbstractcs.exec s = (.ok s.polled.transport.abstractStatus, s.polled) := by
  unfold pollAbstractcs lookAtClock
  simp only [Action.exec_bind, Action.exec_get, Action.exec_set, Action.exec_pure]
  exact exec_pollUntil_of_drains (s := { s with timer := s.timer.looked }) connected fits free drains

theorem isLive_module (s : Session SimulatedModule) : s.isLive = true := rfl

theorem ofCode_cmderr_ne_none {m : SimulatedModule} (h : m.cmderr ≠ 0) :
    CommandError.ofCode m.cmderr.toNat ≠ .none := by
  intro none
  exact h (m.cmderr_eq_zero.1 (SimulatedModule.ofCode_eq_none.1 none))

/-- A poll, and then the failure that the error of the command stands for.  A command that drains in time
has left its error in the module. -/
theorem exec_verdict (connected : s.transport.connected = true) (fits : s.transport.ErrorFits)
    (free : s.transport.stuckBusy = false) (drains : s.DrainsInTime)
    {fail : CommandError → Action DebugError (Session SimulatedModule) Unit}
    {failure : CommandError → DebugError} (fails : ∀ e t, (fail e).exec t = (.error (failure e), t)) :
    (do
      let abstractcs ← pollAbstractcs
      match CommandError.ofAbstractcs abstractcs with
      | .none => pure ()
      | error => fail error).exec s =
      (if s.transport.cmderr = 0 then .ok () else .error (failure (.ofCode s.transport.cmderr.toNat)),
        s.polled) := by
  have status : CommandError.ofAbstractcs s.polled.transport.abstractStatus =
      .ofCode s.transport.cmderr.toNat :=
    SimulatedModule.ofAbstractcs_abstractStatus (m := s.polled.transport) fits
  rw [Action.exec_bind_ok (exec_pollAbstractcs connected fits free drains), status]
  by_cases clear : s.transport.cmderr = 0
  · rw [if_pos clear, clear]
    rfl
  · have latched := ofCode_cmderr_ne_none clear
    rw [if_neg clear]
    generalize CommandError.ofCode s.transport.cmderr.toNat = error at latched ⊢
    cases error <;> first | exact fails _ _ | exact absurd rfl latched

/-- **Waiting for a command that drains in time** ends with the error that the command left. -/
theorem exec_waitForCommand (connected : s.transport.connected = true) (fits : s.transport.ErrorFits)
    (free : s.transport.stuckBusy = false) (drains : s.DrainsInTime) :
    waitForCommand.exec s =
      (if s.transport.cmderr = 0 then .ok ()
        else .error (.command (.ofCode s.transport.cmderr.toNat)), s.polled) := by
  unfold waitForCommand
  rw [Action.exec_bind_ok (Action.exec_get s), isLive_module, if_pos rfl]
  exact exec_verdict connected fits free drains fun e t => Action.exec_throw (DebugError.command e) t

/-- Clearing the error of a module with nothing in flight. -/
theorem exec_clearCommandError (connected : s.transport.connected = true)
    (fits : s.transport.ErrorFits) (free : s.transport.stuckBusy = false)
    (drains : (s.withTransport (s.transport.writeBus .abstractcs Abstractcs.cmderr.mask)).DrainsInTime) :
    clearCommandError.exec s =
      (if (s.transport.writeBus .abstractcs Abstractcs.cmderr.mask).cmderr = 0 then .ok ()
        else .error (.protocol (.commandError
          (.ofCode (s.transport.writeBus .abstractcs Abstractcs.cmderr.mask).cmderr.toNat))),
        (s.withTransport (s.transport.writeBus .abstractcs Abstractcs.cmderr.mask)).polled) := by
  have same := SimulatedModule.setUpAlike_writeBus s.transport .abstractcs Abstractcs.cmderr.mask
  have cleared_fits := fits.writeBus .abstractcs Abstractcs.cmderr.mask
  rw [clearCommandError, Action.exec_bind_ok (exec_writeDmi connected _ _)]
  generalize s.transport.writeBus .abstractcs Abstractcs.cmderr.mask = m at *
  rw [Action.exec_bind_ok (Action.exec_get _), isLive_module, if_pos rfl]
  exact exec_verdict (s := s.withTransport m) (same.connected.trans connected) cleared_fits
    (same.stuckBusy.trans free) drains fun e t => exec_failLogged _ (.protocol (.commandError e)) t

end HartDebug.Session
