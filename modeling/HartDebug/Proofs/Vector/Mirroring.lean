import HartDebug.Proofs.Session.Polling
import HartDebug.Proofs.Vector.Recording

/-!
# Live and recorded sessions side by side

A session on a live module reads, compares and stops where a comparison fails.  A session that records
does none of this: it writes a script with the comparisons in it, and whoever replays the script stops at
the first that fails.  While everything is as expected, the recording so far has a port do to the module
what the live session has done; once the live session has failed at a comparison, the recording holds the
scan that fails on replay, and nothing added later changes this.

* `SimulatedModule.Calm` — a connected module whose commands finish at once;
* `VectorEmitter.Plays`, `VectorEmitter.Breaks` — recordings that pass, and that stop at a mismatch;
* `Mirrors`, `Follows` — the relation between two sessions, before and after an action;
* `Mirroring.bind` — **the simulation composes**;
* `mirroring_writeDmi`, `mirroring_expectDmi`, `mirroring_waitForCommand` — the actions it is built on.
-/

namespace HartDebug

/-! ## Modules whose commands finish at once -/

namespace SimulatedModule

/-- A connected module with no command in flight, now or later, and an error that fits its field. -/
structure Calm (m : SimulatedModule) : Prop where
  connected : m.connected = true
  quick : m.busyReads = 0
  idle : m.busyLeft = 0
  free : m.stuckBusy = false
  fits : m.ErrorFits

theorem Calm.writeBus {m : SimulatedModule} (h : m.Calm) (address : BusAddress) (w : Word) :
    (m.writeBus address w).Calm := by
  have same := setUpAlike_writeBus m address w
  constructor
  · rw [same.connected, h.connected]
  · rw [same.busyReads, h.quick]
  · exact busyLeft_writeBus h.idle h.quick address w
  · rw [same.stuckBusy, h.free]
  · exact h.fits.writeBus address w

/-- A calm module is as it was after any read. -/
theorem Calm.readBus {m : SimulatedModule} (h : m.Calm) (address : BusAddress) :
    (m.readBus address).2 = m :=
  readBus_state_of_idle h.idle address

theorem Calm.isBusy {m : SimulatedModule} (h : m.Calm) : m.isBusy = false := by
  simp [SimulatedModule.isBusy, h.free, h.idle]

end SimulatedModule

/-! ## Recordings that play -/

namespace VectorEmitter

variable {p : ScanPort} {e e' : VectorEmitter} {m : SimulatedModule}

/-- Played from `p`, the recording passes and leaves the module `m` behind the port, with the recording's
own instruction selected. -/
structure Plays (p : ScanPort) (e : VectorEmitter) (m : SimulatedModule) : Prop where
  lines : e.OneLine
  played : ∃ answer, ScanPort.play e.steps p = (true, ⟨m, some e.selected, answer⟩)

/-- Played from `p`, the recording stops at a mismatch and leaves the module `m` behind the port. -/
structure Breaks (p : ScanPort) (e : VectorEmitter) (m : SimulatedModule) : Prop where
  lines : e.OneLine
  played : ∃ q, ScanPort.play e.steps p = (false, q) ∧ q.module = m

/-- **Nothing that is added after a mismatch is played.** -/
theorem Breaks.grows (h : Breaks p e m) (grown : Extends e e') : Breaks p e' m := by
  obtain ⟨q, broken, behind⟩ := h.played
  obtain ⟨more, steps⟩ := grown.steps
  refine ⟨grown.oneLine h.lines, q, ?_, behind⟩
  rw [steps, ScanPort.play_append, broken, if_neg (by simp)]

/-- What is added to a recording that passes is played from where the recording has ended. -/
theorem Plays.play_adding (h : Plays p e m) (added : List Directive) (i : Instruction) :
    ∃ answer, ScanPort.play (e.adding added i).steps p =
      ScanPort.play (added.filterMap Directive.portStep?) ⟨m, some e.selected, answer⟩ := by
  obtain ⟨answer, before⟩ := h.played
  refine ⟨answer, ?_⟩
  rw [steps_adding, ScanPort.play_append, before, if_pos rfl]

/-- After the scan that selects an instruction, where one is recorded, the instruction is selected. -/
theorem play_selecting (e : VectorEmitter) (i : Instruction) (m : SimulatedModule) (answer : Word)
    (rest : List Directive) :
    ScanPort.play ((e.selecting i ++ rest).filterMap Directive.portStep?) ⟨m, some e.selected, answer⟩ =
      ScanPort.play (rest.filterMap Directive.portStep?) ⟨m, some i, answer⟩ := by
  rw [List.filterMap_append, portSteps_selecting, selectSteps]
  split
  · next selected => rw [List.nil_append, selected]
  · rw [List.singleton_append, ScanPort.play_cons_of_step (ScanPort.step_select i _)]

/-- **A recorded write** is made when the recording is played. -/
theorem Plays.write (h : Plays p e m) {address : BusAddress} (ha : address.toNat < 0x80) (data : Word) :
    Plays p (e.writing address data) (m.writeBus address data) := by
  obtain ⟨answer, played⟩ := h.play_adding
    (e.selecting .dmi ++ [.shift .dmi (BusRequest.write.word address data)]) .dmi
  refine ⟨(extends_write e address data).oneLine h.lines, answer, ?_⟩
  rw [writing, played, play_selecting, List.filterMap_cons_some (portStep?_shift _ _),
    ScanPort.play_cons_of_step (ScanPort.step_write rfl ha data)]
  rfl

/-- The scans of an expectation read the register and compare what was read. -/
theorem play_expecting (e : VectorEmitter) {address : BusAddress} (ha : address.toNat < 0x80)
    (expected mask : Word) (m : SimulatedModule) (answer : Word) :
    ScanPort.play ((e.selecting .dmi ++ expectation address expected mask).filterMap
        Directive.portStep?) ⟨m, some e.selected, answer⟩ =
      ((m.readBus address).1 &&& mask == expected &&& mask,
        ⟨(m.readBus address).2, some .dmi, (m.readBus address).1⟩) := by
  rw [play_selecting, portSteps_expectation, ScanPort.play_cons_of_step (ScanPort.step_read rfl ha),
    ScanPort.play_singleton, ScanPort.step_expect rfl]

/-- **A recorded expectation** is compared when the recording is played: it passes or breaks as the read
of a live session would. -/
theorem Plays.expect (h : Plays p e m) {address : BusAddress} (ha : address.toNat < 0x80)
    (expected mask : Word) :
    if (m.readBus address).1 &&& mask = expected &&& mask then
      Plays p (e.expecting address expected mask) (m.readBus address).2
    else
      Breaks p (e.expecting address expected mask) (m.readBus address).2 := by
  obtain ⟨answer, played⟩ := h.play_adding
    (e.selecting .dmi ++ expectation address expected mask) .dmi
  have lines := (extends_expect e address expected mask).oneLine h.lines
  rw [play_expecting e ha] at played
  split
  · next same => exact ⟨lines, _, by rw [expecting, played, beq_iff_eq.2 same]; rfl⟩
  · next differs => exact ⟨lines, _, by rw [expecting, played, beq_eq_false_iff_ne.2 differs], rfl⟩

/-- A recorded expectation of the identification. -/
theorem Plays.expectIdcode (h : Plays p e m) (expected : Word) :
    if m.idcode = expected then Plays p (e.expectingIdcode expected) m
    else Breaks p (e.expectingIdcode expected) m := by
  let added : List Directive :=
    e.selecting .idcode ++ [.compare .idcode 0 (expected.setWidth 64) 0xffffffff]
  obtain ⟨answer, played⟩ := h.play_adding added .idcode
  have lines := (extends_expectIdcode e expected).oneLine h.lines
  have compared : ScanPort.play (added.filterMap Directive.portStep?)
      ⟨m, some e.selected, answer⟩ = (m.idcode == expected, ⟨m, some .idcode, answer⟩) := by
    rw [play_selecting, List.filterMap_cons_some (portStep?_expectIdcode _),
      List.filterMap_nil, ScanPort.play_singleton, ScanPort.step_expectIdcode rfl]
  rw [compared] at played
  split
  · next same => exact ⟨lines, _, by rw [expectingIdcode, played, beq_iff_eq.2 same]; rfl⟩
  · next differs =>
    exact ⟨lines, _, by rw [expectingIdcode, played, beq_eq_false_iff_ne.2 differs], rfl⟩

theorem Plays.resetTap (h : Plays p e m) :
    Plays p e.resetting { m with tapResets := m.tapResets + 1 } := by
  obtain ⟨answer, played⟩ := h.play_adding [.reset, .idle] .idcode
  exact ⟨(extends_resetTap e).oneLine h.lines, answer, by rw [resetting, played]; rfl⟩

theorem Plays.idle (h : Plays p e m) (cycles : Nat) : Plays p (e.idling cycles) m := by
  obtain ⟨answer, played⟩ := h.play_adding [.runTest cycles] e.selected
  exact ⟨(extends_idle e cycles).oneLine h.lines, answer, by rw [idling, played]; rfl⟩

end VectorEmitter

/-! ## The simulation -/

open VectorEmitter

variable {p : ScanPort} {α β : Type}

/-- Two sessions that were set up alike. -/
structure SetAlike (s : Session SimulatedModule) (t : Session VectorEmitter) : Prop where
  config : t.config = s.config
  width : t.width = s.width
  progbufCapacity : t.progbufCapacity = s.progbufCapacity

theorem SetAlike.withTransport {s : Session SimulatedModule} {t : Session VectorEmitter}
    (h : SetAlike s t) (m : SimulatedModule) (e : VectorEmitter) :
    SetAlike (s.withTransport m) (t.withTransport e) :=
  ⟨h.config, h.width, h.progbufCapacity⟩

/-- What the live session has done is what the recording has a port do. -/
structure Mirrors (p : ScanPort) (s : Session SimulatedModule) (t : Session VectorEmitter) : Prop where
  alike : SetAlike s t
  calm : s.transport.Calm
  plays : Plays p t.transport s.transport

/-- After an operation: both sessions had the same outcome and go on alike, or the live session has failed
where the recording breaks. -/
def Follows (p : ScanPort) (live : Except DebugError α × Session SimulatedModule)
    (recorded : Except DebugError α × Session VectorEmitter) : Prop :=
  (recorded.1 = live.1 ∧ Mirrors p live.2 recorded.2) ∨
    ((∃ e, live.1 = .error e) ∧ Breaks p recorded.2.transport live.2.transport)

/-- Run live and recorded, two actions go on alike. -/
structure Mirroring (x : Action DebugError (Session SimulatedModule) α)
    (y : Action DebugError (Session VectorEmitter) α) : Prop where
  follows : ∀ {p s t}, Mirrors p s t → Follows p (x.exec s) (y.exec t)
  grows : ∀ t, Extends t.transport (y.exec t).2.transport

namespace Mirroring

theorem pure (a : α) : Mirroring (pure a) (pure a) where
  follows h := .inl ⟨rfl, h⟩
  grows t := .refl t.transport

theorem throw (e : DebugError) :
    Mirroring (throw e : Action DebugError (Session SimulatedModule) α) (MonadExcept.throw e) where
  follows h := .inl ⟨rfl, h⟩
  grows t := .refl t.transport

theorem ofExcept (r : Except DebugError α) : Mirroring (Action.ofExcept r) (Action.ofExcept r) where
  follows h := .inl ⟨rfl, h⟩
  grows t := .refl t.transport

theorem log (level : Level) (source : Source) (text : String) :
    Mirroring (Action.log level source text) (Action.log level source text) where
  follows h := .inl ⟨rfl, h⟩
  grows t := .refl t.transport

/-- **The simulation composes.**  Where the live session fails at a comparison, the recording may go on;
what it records from there on is never played. -/
theorem bind {x : Action DebugError (Session SimulatedModule) α}
    {y : Action DebugError (Session VectorEmitter) α}
    {f : α → Action DebugError (Session SimulatedModule) β}
    {g : α → Action DebugError (Session VectorEmitter) β} (first : Mirroring x y)
    (second : ∀ a, Mirroring (f a) (g a)) : Mirroring (x >>= f) (y >>= g) where
  follows := by
    intro p s t h
    have followed := first.follows h
    rw [Action.exec_bind, Action.exec_bind]
    generalize x.exec s = live at followed
    generalize y.exec t = recorded at followed
    obtain ⟨outcome, s'⟩ := live
    obtain ⟨outcome', t'⟩ := recorded
    rcases followed with ⟨same, mirrors⟩ | ⟨⟨e, failed⟩, breaks⟩
    · obtain rfl : outcome' = outcome := same
      cases outcome' with
      | error e => exact .inl ⟨rfl, mirrors⟩
      | ok a => exact (second a).follows mirrors
    · obtain rfl : outcome = .error e := failed
      right
      refine ⟨⟨e, rfl⟩, ?_⟩
      cases outcome' with
      | error e' => exact breaks
      | ok a => exact breaks.grows ((second a).grows t')
  grows t := by
    have grown := first.grows t
    rw [Action.exec_bind]
    generalize y.exec t = recorded at grown
    obtain ⟨outcome, t'⟩ := recorded
    cases outcome with
    | error e => exact grown
    | ok a => exact grown.trans ((second a).grows t')

/-- What depends on the settings alone is the same on both sides. -/
theorem get_bind {f : Session SimulatedModule → Action DebugError (Session SimulatedModule) β}
    {g : Session VectorEmitter → Action DebugError (Session VectorEmitter) β}
    (h : ∀ s t, SetAlike s t → Mirroring (f s) (g t)) : Mirroring (get >>= f) (get >>= g) where
  follows := by
    intro p s t mirrors
    exact (h s t mirrors.alike).follows mirrors
  grows t :=
    let s : Session SimulatedModule :=
      { transport := {}, config := t.config, width := t.width, progbufCapacity := t.progbufCapacity
        timer := t.timer }
    (h s t ⟨rfl, rfl, rfl⟩).grows t

/-- A change of what the session remembers besides its transport and its settings. -/
theorem modify {f : Session SimulatedModule → Session SimulatedModule}
    {g : Session VectorEmitter → Session VectorEmitter}
    (module : ∀ s, (f s).transport = s.transport) (recording : ∀ t, (g t).transport = t.transport)
    (alike : ∀ s t, SetAlike s t → SetAlike (f s) (g t)) :
    Mirroring (modify f) (modify g) where
  follows := by
    intro p s t h
    refine .inl ⟨rfl, alike s t h.alike, ?_, ?_⟩
    · show (f s).transport.Calm
      rw [module]
      exact h.calm
    · show Plays p (g t).transport (f s).transport
      rw [module, recording]
      exact h.plays
  grows t := by
    show Extends t.transport (g t).transport
    rw [recording]
    exact .refl t.transport

theorem forM {f : β → Action DebugError (Session SimulatedModule) PUnit}
    {g : β → Action DebugError (Session VectorEmitter) PUnit} :
    ∀ {l : List β}, (∀ b ∈ l, Mirroring (f b) (g b)) → Mirroring (l.forM f) (l.forM g)
  | [], _ => .pure _
  | b :: l, h => by
    show Mirroring (f b >>= fun _ => l.forM f) (g b >>= fun _ => l.forM g)
    exact (h b List.mem_cons_self).bind fun _ => forM fun c mem => h c (List.mem_cons_of_mem _ mem)

end Mirroring

/-! ## Accesses -/

open Session

theorem mirroring_writeDmi {address : BusAddress} (ha : address.toNat < 0x80) (data : Word) :
    Mirroring (writeDmi address data) (writeDmi address data) where
  follows := by
    intro p s t h
    rw [exec_writeDmi h.calm.connected, exec_writeDmi_recording]
    exact .inl ⟨rfl, h.alike.withTransport _ _, h.calm.writeBus address data, h.plays.write ha data⟩
  grows t := by
    rw [exec_writeDmi_recording]
    exact extends_write t.transport address data

theorem mirroring_expectDmi {address : BusAddress} (ha : address.toNat < 0x80) (expected mask : Word)
    (failure : String) :
    Mirroring (expectDmi address expected mask failure) (expectDmi address expected mask failure) where
  follows := by
    intro p s t h
    have compared := h.plays.expect ha expected mask
    rw [exec_expectDmi h.calm.connected, exec_expectDmi_recording]
    split at compared
    · next same =>
      rw [if_pos same]
      refine .inl ⟨rfl, h.alike.withTransport _ _, ?_, compared⟩
      show (s.transport.readBus address).2.Calm
      rw [h.calm.readBus]
      exact h.calm
    · next differs =>
      rw [if_neg differs]
      exact .inr ⟨⟨_, rfl⟩, compared⟩
  grows t := by
    rw [exec_expectDmi_recording]
    exact extends_expect t.transport address expected mask

theorem mirroring_resetTap : Mirroring resetTap resetTap where
  follows := by
    intro p s t h
    rw [resetTap, resetTap, exec_onTransport, exec_onTransport, exec_resetTap]
    refine .inl ⟨rfl, h.alike.withTransport _ _, ?_, h.plays.resetTap⟩
    exact ⟨h.calm.connected, h.calm.quick, h.calm.idle, h.calm.free, h.calm.fits⟩
  grows t := by
    rw [resetTap, exec_onTransport, exec_resetTap]
    exact extends_resetTap t.transport

theorem mirroring_expectIdcode (expected : Word) :
    Mirroring (expectIdcode expected) (expectIdcode expected) where
  follows := by
    intro p s t h
    have compared := h.plays.expectIdcode expected
    have recorded : (expectIdcode expected).exec t =
        (.ok (), t.withTransport (t.transport.expectingIdcode expected)) := by
      rw [expectIdcode, Action.exec_bind_ok
        (by rw [exec_onTransport, VectorEmitter.exec_expectIdcode expected])]
      rfl
    have live : (Transport.expectIdcode expected).exec s.transport =
        (.ok (if s.transport.idcode = expected then .passed else .failed s.transport.idcode),
          s.transport) := by
      show (Bus.readAndCompareIdcode expected).exec s.transport = _
      have idcode : (Bus.readIdcode : Action DebugError SimulatedModule Word).exec s.transport =
          (.ok s.transport.idcode, s.transport) := rfl
      rw [Bus.readAndCompareIdcode, Action.exec_bind_ok idcode]
      split <;> rfl
    rw [recorded, expectIdcode, Action.exec_bind_ok (by rw [exec_onTransport, live])]
    split at compared
    · next same =>
      rw [if_pos same]
      exact .inl ⟨rfl, h.alike.withTransport _ _, h.calm, compared⟩
    · next differs =>
      rw [if_neg differs]
      exact .inr ⟨⟨_, rfl⟩, compared⟩
  grows t := by
    rw [expectIdcode, Action.exec_bind_ok
      (by rw [exec_onTransport, VectorEmitter.exec_expectIdcode expected])]
    exact extends_expectIdcode t.transport expected

/-! ## Waiting for commands -/

/-- What a live session learns from a poll, a recording asks for: an expectation whose mask finds the
latched error breaks where the poll ends in an error. -/
theorem Mirrors.expect_cmderr {s : Session SimulatedModule} {t : Session VectorEmitter}
    (h : Mirrors p s t) {mask : Word}
    (finds : s.transport.abstractStatus &&& mask = 0 ↔ s.transport.cmderr = 0) (e : DebugError)
    (timer : Timer) :
    Follows p (if s.transport.cmderr = 0 then .ok () else .error e, { s with timer := timer })
      (.ok (), t.withTransport (t.transport.expecting .abstractcs 0 mask)) := by
  have compared := h.plays.expect (show BusAddress.abstractcs.toNat < 0x80 by decide) 0 mask
  rw [h.calm.readBus, SimulatedModule.readBus_abstractcs, show 0 &&& mask = 0 from BitVec.zero_and]
    at compared
  by_cases clear : s.transport.cmderr = 0
  · rw [if_pos (finds.2 clear)] at compared
    rw [if_pos clear]
    exact .inl ⟨rfl, ⟨h.alike.config, h.alike.width, h.alike.progbufCapacity⟩, h.calm, compared⟩
  · rw [if_neg fun same => clear (finds.1 same)] at compared
    rw [if_neg clear]
    exact .inr ⟨⟨e, rfl⟩, compared⟩

theorem mirroring_waitForCommand : Mirroring waitForCommand waitForCommand where
  follows := by
    intro p s t h
    have waited : Mirrors p s (t.withTransport (t.transport.idling t.config.settleCycles)) :=
      ⟨h.alike.withTransport s.transport _, h.calm, h.plays.idle t.config.settleCycles⟩
    rw [exec_waitForCommand h.calm.connected h.calm.fits h.calm.free (drainsInTime_of_idle h.calm.idle),
      polled_of_idle h.calm.idle, exec_waitForCommand_recording]
    exact waited.expect_cmderr
      (SimulatedModule.and_unfinished_eq_zero h.calm.fits h.calm.isBusy) _ _
  grows t := by
    rw [exec_waitForCommand_recording]
    exact (extends_idle _ _).trans (extends_expect _ _ _ _)

theorem mirroring_clearCommandError : Mirroring clearCommandError clearCommandError where
  follows := by
    intro p s t h
    have cleared := h.calm.writeBus .abstractcs Abstractcs.cmderr.mask
    have wrote : Mirrors p
        (s.withTransport (s.transport.writeBus .abstractcs Abstractcs.cmderr.mask))
        (t.withTransport (t.transport.writing .abstractcs Abstractcs.cmderr.mask)) :=
      ⟨h.alike.withTransport _ _, cleared, h.plays.write (by decide) _⟩
    have finished := polled_of_idle
      (s := s.withTransport (s.transport.writeBus .abstractcs Abstractcs.cmderr.mask)) cleared.idle
    rw [exec_clearCommandError h.calm.connected h.calm.fits h.calm.free
      (drainsInTime_of_idle cleared.idle), finished, exec_clearCommandError_recording]
    exact wrote.expect_cmderr (SimulatedModule.and_cmderr_eq_zero cleared.fits) _ _
  grows t := by
    rw [exec_clearCommandError_recording]
    exact (extends_write _ _ _).trans (extends_expect _ _ _ _)

end HartDebug
