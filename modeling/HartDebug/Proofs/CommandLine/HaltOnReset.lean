import HartDebug.Proofs.CommandLine.Course
import HartDebug.Proofs.Session.Calls
import HartDebug.Proofs.Session.Footprint
import HartDebug.Target.Scripted

/-!
# Requests to halt on reset

A debug module keeps a request to halt the hart on reset until it is told otherwise, so a reset that is to halt
the hart makes the request, resets, and takes the request back.  The reset is several accesses, any of which
may fail; the request is taken back all the same.

* `Dmcontrol.isSet_request` — a request sets its own bit and no other;
* `Dmcontrol.IsSilent` — a value that says nothing about halting on reset;
* `Subcommand.TakesBack`, `Subcommand.takes_back` — **a reset on any transport**, with the calls that it makes;
* `SimulatedModule.control_active` and the lemmas after it — what each request does to a module;
* `SimulatedModule.afterReset`, `Subcommand.exec_runReset_connected` — **a reset of a module that is connected**;
* `halt_on_reset_taken_back` — **a request to halt on reset is never left standing**;
* `halt_on_reset_taken_back_after_failure` — a hart that does not come out of its reset.
-/

namespace HartDebug

/-! ## Requests -/

namespace Dmcontrol

/-- **A request sets its own bit** and no other. -/
theorem isSet_request {f g : BitField} (hf : f ∈ requests) (hg : g ∈ requests) :
    f.isSet (request g) = decide (f = g) := by
  have each : ∀ f ∈ requests, ∀ g ∈ requests, f.isSet (request g) = decide (f = g) := by decide +kernel
  exact each f hf g hg

/-- Without a request none of their bits is set. -/
theorem isSet_active {f : BitField} (hf : f ∈ requests) : f.isSet active = false := by
  have each : ∀ f ∈ requests, f.isSet active = false := by decide +kernel
  exact each f hf

/-- The value says nothing about halting on reset. -/
def IsSilent (w : Word) : Prop :=
  setresethaltreq.isSet w = false ∧ clrresethaltreq.isSet w = false

theorem isSilent_active : IsSilent active :=
  ⟨isSet_active (by decide), isSet_active (by decide)⟩

theorem isSilent_request {f : BitField} (hf : f ∈ requests) (sets : f ≠ setresethaltreq)
    (clears : f ≠ clrresethaltreq) : IsSilent (request f) := by
  constructor
  · rw [isSet_request (by decide) hf, decide_eq_false_iff_not]
    exact fun same => sets same.symm
  · rw [isSet_request (by decide) hf, decide_eq_false_iff_not]
    exact fun same => clears same.symm

/-- What is given to `dmcontrol` while a hart is reset. -/
def resetControls : List Word :=
  [request ndmreset, active, request ackhavereset]

theorem isSilent_of_mem_resetControls : ∀ w ∈ resetControls, IsSilent w :=
  List.forall_mem_cons.2 ⟨isSilent_request (by decide) (by decide) (by decide),
    List.forall_mem_cons.2 ⟨isSilent_active,
      List.forall_mem_singleton.2 (isSilent_request (by decide) (by decide) (by decide))⟩⟩

end Dmcontrol

/-! ## On any transport -/

namespace Subcommand

open Session (setHaltOnReset clearHaltOnReset resetHart Alike Conducts Issues)

variable {σ τ : Type}

/-- The call that asks for the hart to be halted on reset. -/
def arming : TransportCall :=
  .write .dmcontrol (Dmcontrol.request Dmcontrol.setresethaltreq)

/-- The call that takes this back. -/
def disarming : TransportCall :=
  .write .dmcontrol (Dmcontrol.request Dmcontrol.clrresethaltreq)

variable [Transport σ] [Transport τ]

/-- Once the request has been made it is taken back, whatever becomes of the reset. -/
theorem exec_runReset_of_armed {s armed : Session τ} (arms : setHaltOnReset.exec s = (.ok (), armed)) :
    (runReset true).exec s =
      match clearHaltOnReset.exec (resetHart.exec armed).2 with
      | (.error e, t) => (.error ⟨[], e⟩, t)
      | (.ok (), t) => (((Report.of resetHart).exec armed).1, t) := by
  have begun : (Report.of setHaltOnReset).exec s = (.ok (), armed) := by
    rw [Report.of, Action.exec_mapError, arms]
    rfl
  show (do
    Report.of setHaltOnReset
    let outcome ← Action.attempt (Report.of resetHart)
    Report.of clearHaltOnReset
    Action.ofExcept outcome : Action Report (Session τ) Unit).exec s = _
  rw [Action.exec_bind_ok begun, Action.exec_bind_ok (Action.exec_attempt _ _), Action.exec_bind]
  simp only [Report.of, Action.exec_mapError]
  rcases clearHaltOnReset.exec (resetHart.exec armed).2 with ⟨_ | _, t⟩ <;> rfl

theorem state_runReset_of_armed {s armed : Session τ} (arms : setHaltOnReset.exec s = (.ok (), armed)) :
    ((runReset true).exec s).2 = (clearHaltOnReset.exec (resetHart.exec armed).2).2 := by
  rw [exec_runReset_of_armed arms]
  rcases clearHaltOnReset.exec (resetHart.exec armed).2 with ⟨_ | _, t⟩ <;> rfl

/-- Where the request fails there is no reset. -/
theorem exec_runReset_of_unarmed {s t : Session τ} {e : DebugError}
    (fails : setHaltOnReset.exec s = (.error e, t)) : (runReset true).exec s = (.error ⟨[], e⟩, t) := by
  have begun : (Report.of setHaltOnReset).exec s = (.error ⟨[], e⟩, t) := by
    rw [Report.of, Action.exec_mapError, fails]
    rfl
  exact Action.exec_bind_error begun _

/-- Without a request to halt the hart the subcommand is the reset alone. -/
theorem exec_runReset_plain (s : Session τ) : (runReset false).exec s = (Report.of resetHart).exec s :=
  exec_attempted (Report.of resetHart) s

theorem simulates_request {R : σ → τ → Prop} (h : Transport.Agree R) (f : BitField) (text : String) :
    Action.Simulates (Alike R) (do Action.log .debug .runControl text; Session.request f)
      (do Action.log .debug .runControl text; Session.request f) :=
  (Action.Simulates.log _ _ _).bind fun _ => Session.simulates_request h f

theorem simulates_runReset {R : σ → τ → Prop} (h : Transport.Agree R) (halting : Bool) :
    Action.Simulates (Alike R) (runReset halting) (runReset halting) := by
  have reset : Action.Simulates (Alike R)
      (Action.attempt (Report.of resetHart) : Action Report (Session σ) (Except Report Unit))
      (Action.attempt (Report.of resetHart)) := ((Session.simulates_resetHart h).mapError _).attempt
  cases halting with
  | false => exact reset.bind fun outcome => .ofExcept outcome
  | true =>
    refine ((simulates_request h _ _).mapError _).bind fun _ => reset.bind fun outcome => ?_
    exact ((simulates_request h _ _).mapError _).bind fun _ => .ofExcept outcome

/-! ### Under trace -/

theorem conducts_setHaltOnReset : Conducts [arming] (setHaltOnReset (τ := Traced τ)) :=
  (Session.conducts_log _ _ _).bind fun _ => Session.conducts_writeDmi _ _

theorem conducts_clearHaltOnReset : Conducts [disarming] (clearHaltOnReset (τ := Traced τ)) :=
  (Session.conducts_log _ _ _).bind fun _ => Session.conducts_writeDmi _ _

/-- The request is one call, which has under trace the outcome that it has without one. -/
theorem exec_setHaltOnReset_traced (s : Session τ) :
    ∃ t, setHaltOnReset.exec s.traced = ((setHaltOnReset.exec s).1, t) ∧ t.transport.calls = [arming] := by
  have same := (simulates_request agree_traced Dmcontrol.setresethaltreq "Setting halt-on-reset" s.traced s
    (Session.alike_traced s)).1
  obtain ⟨failure, makes⟩ := conducts_setHaltOnReset.makes_one s.traced
  exact ⟨(setHaltOnReset.exec s.traced).2, Prod.ext same rfl, makes.listed⟩

/-- What a reset does on a bus: what it reports and what becomes of the transport are the same under trace, and
the trace says which calls it makes.  If the request to halt on reset is refused it is the only call.  If not,
it is the first one, the last one takes it back, and none in between has to do with it.  A reset without the
request has nothing to do with it at all. -/
structure TakesBack (s : Session τ) : Prop where
  outcome : ∀ halting, ((runReset halting).exec s.traced).1 = ((runReset halting).exec s).1
  transport : ∀ halting,
    ((runReset halting).exec s.traced).2.transport.transport = ((runReset halting).exec s).2.transport
  refused : ∀ e t, setHaltOnReset.exec s = (.error e, t) →
    ((runReset true).exec s.traced).2.transport.calls = [arming] ∧
      ((runReset true).exec s).1 = .error ⟨[], e⟩
  armed : ∀ t, setHaltOnReset.exec s = (.ok (), t) → ∃ between,
    ((runReset true).exec s.traced).2.transport.calls = arming :: (between ++ [disarming]) ∧
      controlWrites between <+: Dmcontrol.resetControls ∧
      ∀ w ∈ controlWrites between, Dmcontrol.IsSilent w
  plain : ∀ w ∈ controlWrites ((runReset false).exec s.traced).2.transport.calls, Dmcontrol.IsSilent w

/-- **A reset on any transport** takes back what it has asked for, wherever it fails. -/
theorem takes_back (s : Session τ) : TakesBack s where
  outcome halting := (simulates_runReset agree_traced halting s.traced s (Session.alike_traced s)).1
  transport halting := (simulates_runReset agree_traced halting s.traced s (Session.alike_traced s)).2.transport
  refused e t fails := by
    obtain ⟨t', ran, listed⟩ := exec_setHaltOnReset_traced s
    rw [fails] at ran
    rw [exec_runReset_of_unarmed ran, exec_runReset_of_unarmed fails]
    exact ⟨listed, rfl⟩
  armed t arms := by
    obtain ⟨t', ran, begun⟩ := exec_setHaltOnReset_traced s
    rw [arms] at ran
    obtain ⟨between, listed, -, part, -⟩ := Session.issues_resetHart t'
    obtain ⟨failure, makes⟩ := conducts_clearHaltOnReset.makes_one (resetHart.exec t').2
    refine ⟨between, ?_, part, fun w mem => ?_⟩
    · rw [state_runReset_of_armed ran, makes.listed, listed, begun]
      rfl
    · exact Dmcontrol.isSilent_of_mem_resetControls w (part.subset mem)
  plain w mem := by
    obtain ⟨calls, listed, -, part, -⟩ := Session.issues_resetHart s.traced
    rw [exec_runReset_plain, Report.of, Action.exec_mapError] at mem
    dsimp only at mem
    rw [listed] at mem
    exact Dmcontrol.isSilent_of_mem_resetControls w (part.subset mem)

end Subcommand

/-! ## On a module -/

namespace SimulatedModule

variable (m : SimulatedModule)

/-! ### What each request does -/

theorem control_active : m.control Dmcontrol.active = { m with dmactive := true } := rfl

theorem control_setresethaltreq :
    m.control (Dmcontrol.request Dmcontrol.setresethaltreq) = { m with dmactive := true, haltOnReset := true } :=
  rfl

theorem control_clrresethaltreq :
    m.control (Dmcontrol.request Dmcontrol.clrresethaltreq) = { m with dmactive := true, haltOnReset := false } :=
  rfl

theorem control_ndmreset :
    m.control (Dmcontrol.request Dmcontrol.ndmreset) =
      { m with dmactive := true, haveReset := true, halted := m.haltOnReset, resumeAcknowledged := false } :=
  rfl

theorem control_ackhavereset :
    m.control (Dmcontrol.request Dmcontrol.ackhavereset) = { m with dmactive := true, haveReset := false } :=
  rfl

/-- A module whose hart has been reset says so. -/
theorem status_of_haveReset {m : SimulatedModule} (reset : m.haveReset = true) :
    m.status &&& Dmstatus.reset = Dmstatus.reset &&& Dmstatus.reset := by
  rw [status, reset]
  cases m.halted <;> cases m.resumeAcknowledged <;> decide +kernel

/-- The module after a reset that is to halt the hart, or not to.  If not, the hart is halted if that was asked
for before, and this stays so.  The reset has been acknowledged. -/
def afterReset (halting : Bool) : SimulatedModule :=
  { m with
    dmactive := true
    haveReset := false
    haltOnReset := if halting then false else m.haltOnReset
    halted := if halting then true else m.haltOnReset
    resumeAcknowledged := false }

end SimulatedModule

namespace Session

variable {s : Session SimulatedModule}

theorem exec_request (connected : s.transport.connected = true) (f : BitField) :
    (request f).exec s = (.ok (), s.withTransport (s.transport.control (Dmcontrol.request f))) :=
  exec_writeDmi connected .dmcontrol (Dmcontrol.request f)

/-- A reset of a module that is connected succeeds. -/
theorem exec_resetHart (connected : s.transport.connected = true) :
    ∃ t, resetHart.exec s = (.ok (), t) ∧ t.transport = s.transport.afterReset false := by
  let requested := s.withTransport (s.transport.control (Dmcontrol.request Dmcontrol.ndmreset))
  let withdrawn := requested.withTransport (requested.transport.control Dmcontrol.active)
  let acknowledged := withdrawn.withTransport
    (withdrawn.transport.control (Dmcontrol.request Dmcontrol.ackhavereset))
  have requests : (request Dmcontrol.ndmreset).exec s = (.ok (), requested) := exec_request connected _
  have withdraws : withdraw.exec requested = (.ok (), withdrawn) :=
    exec_writeDmi (s := requested) connected .dmcontrol Dmcontrol.active
  have sees : (expectDmi .dmstatus Dmstatus.reset Dmstatus.reset "hart failed to reset").exec withdrawn =
      (.ok (), withdrawn) := by
    have status : withdrawn.transport.readBus .dmstatus = (withdrawn.transport.status, withdrawn.transport) := rfl
    have reset : withdrawn.transport.haveReset = true := rfl
    rw [exec_expectDmi (s := withdrawn) connected, status, if_pos (SimulatedModule.status_of_haveReset reset)]
    rfl
  have acknowledges : (request Dmcontrol.ackhavereset).exec withdrawn = (.ok (), acknowledged) :=
    exec_request (s := withdrawn) connected _
  have after : acknowledged.transport = s.transport.afterReset false := by
    show ((s.transport.control (Dmcontrol.request Dmcontrol.ndmreset)).control Dmcontrol.active).control
      (Dmcontrol.request Dmcontrol.ackhavereset) = _
    rw [SimulatedModule.control_ndmreset, SimulatedModule.control_active, SimulatedModule.control_ackhavereset]
    rfl
  refine ⟨{ acknowledged with dcsrShadow := 0 }, ?_, after⟩
  rw [resetHart, Action.exec_bind_ok (Action.exec_log _ _ _ s), Action.exec_bind_ok requests,
    Action.exec_bind_ok withdraws, Action.exec_bind_ok sees, Action.exec_bind_ok acknowledges]
  rfl

end Session

/-- **A reset of a module that is connected** succeeds, and only the run control of the module has changed. -/
theorem Subcommand.exec_runReset_connected {s : Session SimulatedModule}
    (connected : s.transport.connected = true) (halting : Bool) :
    ∃ t, (runReset halting).exec s = (.ok (), t) ∧ t.transport = s.transport.afterReset halting := by
  cases halting with
  | false =>
    obtain ⟨t, ran, after⟩ := Session.exec_resetHart connected
    refine ⟨t, ?_, after⟩
    rw [exec_runReset_plain, Report.of, Action.exec_mapError, ran]
    rfl
  | true =>
    let armed := s.withTransport (s.transport.control (Dmcontrol.request Dmcontrol.setresethaltreq))
    have arms : Session.setHaltOnReset.exec s = (.ok (), armed) := by
      rw [Session.setHaltOnReset, Action.exec_bind_ok (Action.exec_log _ _ _ s), Session.exec_request connected]
    have armed_connected : armed.transport.connected = true := connected
    obtain ⟨t, ran, after⟩ := Session.exec_resetHart armed_connected
    have still_connected : t.transport.connected = true := by
      rw [after]
      exact connected
    let cleared := t.withTransport (t.transport.control (Dmcontrol.request Dmcontrol.clrresethaltreq))
    have clears : Session.clearHaltOnReset.exec t = (.ok (), cleared) := by
      rw [Session.clearHaltOnReset, Action.exec_bind_ok (Action.exec_log _ _ _ t),
        Session.exec_request still_connected]
    refine ⟨cleared, ?_, ?_⟩
    · rw [exec_runReset_of_armed arms, Report.of, Action.exec_mapError, ran]
      dsimp only
      rw [clears]
      rfl
    · show t.transport.control (Dmcontrol.request Dmcontrol.clrresethaltreq) = _
      have asked : armed.transport = { s.transport with dmactive := true, haltOnReset := true } :=
        SimulatedModule.control_setresethaltreq s.transport
      rw [after, asked, SimulatedModule.control_clrresethaltreq]
      rfl

/-- **A request to halt on reset is never left standing.**  On every transport, whatever it answers and wherever
it fails, a reset that has asked for the hart to be halted ends by taking that back, and one that does not ask
for it has nothing to do with it.  On a module that is connected both succeed: the first leaves the hart halted
and no request behind, and the second leaves the hart halted exactly if a request stood, which stays. -/
theorem halt_on_reset_taken_back :
    (∀ {τ : Type} [Transport τ] (s : Session τ), Subcommand.TakesBack s) ∧
      ∀ {s : Session SimulatedModule}, s.transport.connected = true → ∀ halting, ∃ t,
        (Subcommand.runReset halting).exec s = (.ok (), t) ∧ t.transport = s.transport.afterReset halting :=
  ⟨Subcommand.takes_back, Subcommand.exec_runReset_connected⟩

/-- A bus that refuses the second write to `dmcontrol`, with which the hart is to be reset, and a module whose
hart was to be halted on reset before. -/
theorem halt_on_reset_taken_back_after_failure :
    let bus : ScriptedBus := { writes := [(.dmcontrol, [.value 0, .failure "Failed", .value 0])] }
    let s : Session ScriptedBus := .fresh bus {} { clock := .steady 1 (by decide) }
    let m : Session SimulatedModule :=
      .fresh { connected := true, haltOnReset := true } {} { clock := .steady 1 (by decide) }
    ((Subcommand.runReset true).exec s).1 = .error ⟨[], .adapterFailure "Failed"⟩ ∧
      (∃ between, ((Subcommand.runReset true).exec s.traced).2.transport.calls =
        Subcommand.arming :: (between ++ [Subcommand.disarming])) ∧
      m.transport.connected = true ∧
      ∃ t, (Subcommand.runReset false).exec m = (.ok (), t) ∧
        t.transport.halted = true ∧ t.transport.haltOnReset = true := by
  intro bus s m
  obtain ⟨on_any, on_module⟩ := halt_on_reset_taken_back
  have arms : Session.setHaltOnReset.exec s = (.ok (), (Session.setHaltOnReset.exec s).2) := Prod.ext rfl rfl
  obtain ⟨between, calls, -⟩ := (on_any s).armed _ arms
  have connected : m.transport.connected = true := rfl
  obtain ⟨t, ran, after⟩ := on_module connected false
  exact ⟨rfl, ⟨between, calls⟩, connected, t, ran, by rw [after]; rfl, by rw [after]; rfl⟩

end HartDebug
