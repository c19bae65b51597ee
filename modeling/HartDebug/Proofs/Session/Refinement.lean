import HartDebug.Proofs.Session.Polling
import HartDebug.Proofs.Simulation
import HartDebug.Session.Operation

/-!
# Sessions over one bus and another

The operations of a session are written for every transport, and reach the target through its accesses
alone.  So where the accesses of one transport do what those of another do, the operations of a session
over the one do what they do over the other: with the same answers, the same errors, and after the same
time.

* `Transport.Agree` — the accesses of one transport do what those of another do;
* `Transport.Refines` — the same of transports that read back, whose expectations follow from their reads;
* `Session.Alike` — sessions over related transports that agree in everything else;
* `simulates_perform` — **every operation goes through alike**, connecting and disconnecting apart;
* `performEach`, `simulates_performEach` — **every sequence of operations**, also past those that fail.
-/

namespace HartDebug

open Action (Simulates)

variable {σ τ : Type} {R : σ → τ → Prop}

/-- From related states the accesses of two transports do the same.  A pause matters only where values
cannot be read back. -/
structure Transport.Agree [Transport σ] [Transport τ] (R : σ → τ → Prop) : Prop where
  live : ∀ {s t}, R s t → Bus.isLive s = Bus.isLive t
  write : ∀ address data, Simulates R (Bus.write address data) (Bus.write address data)
  read : ∀ address, Simulates R (Bus.read address) (Bus.read address)
  writeDtmcs : ∀ value, Simulates R (Bus.writeDtmcs value) (Bus.writeDtmcs value)
  readDtmcs : Simulates R Bus.readDtmcs Bus.readDtmcs
  readIdcode : Simulates R Bus.readIdcode Bus.readIdcode
  resetTap : Simulates R Bus.resetTap Bus.resetTap
  expect : ∀ address expected mask,
    Simulates R (Transport.expect address expected mask) (Transport.expect address expected mask)
  expectIdcode : ∀ expected,
    Simulates R (Transport.expectIdcode expected) (Transport.expectIdcode expected)
  idle : ∀ cycles {s t}, R s t → Bus.isLive t = false →
    ((Transport.idle cycles).exec s).1 = ((Transport.idle cycles).exec t).1 ∧
      R ((Transport.idle cycles).exec s).2 ((Transport.idle cycles).exec t).2

/-- From related states the accesses of two transports that read back do the same. -/
structure Transport.Refines [Transport σ] [Transport τ] [ReadsBack σ] [ReadsBack τ]
    (R : σ → τ → Prop) : Prop where
  write : ∀ address data, Simulates R (Bus.write address data) (Bus.write address data)
  read : ∀ address, Simulates R (Bus.read address) (Bus.read address)
  writeDtmcs : ∀ value, Simulates R (Bus.writeDtmcs value) (Bus.writeDtmcs value)
  readDtmcs : Simulates R Bus.readDtmcs Bus.readDtmcs
  readIdcode : Simulates R Bus.readIdcode Bus.readIdcode
  resetTap : Simulates R Bus.resetTap Bus.resetTap

/-- Where values are read back, what is expected and what is awaited follows from the reads. -/
theorem Transport.Refines.agree [Transport σ] [Transport τ] [ReadsBack σ] [ReadsBack τ]
    (h : Transport.Refines R) : Transport.Agree R where
  live _ := by rw [ReadsBack.live, ReadsBack.live]
  write := h.write
  read := h.read
  writeDtmcs := h.writeDtmcs
  readDtmcs := h.readDtmcs
  readIdcode := h.readIdcode
  resetTap := h.resetTap
  expect address expected mask := by
    rw [ReadsBack.expect_eq, ReadsBack.expect_eq, Bus.readAndCompare, Bus.readAndCompare]
    refine (h.read address).bind fun actual => ?_
    split
    · exact .pure _
    · exact .pure _
  expectIdcode expected := by
    rw [ReadsBack.expectIdcode_eq, ReadsBack.expectIdcode_eq, Bus.readAndCompareIdcode,
      Bus.readAndCompareIdcode]
    refine h.readIdcode.bind fun actual => ?_
    split
    · exact .pure _
    · exact .pure _
  idle cycles s t _ offline := by
    rw [ReadsBack.live] at offline
    cases offline

/-- Sessions over related transports that agree in everything else. -/
structure Session.Alike (R : σ → τ → Prop) (s : Session σ) (t : Session τ) : Prop where
  transport : R s.transport t.transport
  config : s.config = t.config
  tap : s.tap = t.tap
  xlen : s.xlen = t.xlen
  width : s.width = t.width
  progbufCapacity : s.progbufCapacity = t.progbufCapacity
  dcsrShadow : s.dcsrShadow = t.dcsrShadow
  timer : s.timer = t.timer

namespace Session

open Action.Simulates (log throw pure get_bind)

theorem simulates_failLogged {α : Type} (source : Source) (e : DebugError) :
    Simulates (Alike R) (failLogged source e : Action DebugError (Session σ) α) (failLogged source e) :=
  (log _ _ _).bind fun _ => throw e

theorem simulates_onTransport {α : Type} {x : Action DebugError σ α} {y : Action DebugError τ α}
    (h : Simulates R x y) : Simulates (Alike R) (onTransport x) (onTransport y) :=
  h.onPart (fun _ _ alike => alike.transport) fun _ _ alike _ _ after => { alike with transport := after }

theorem simulates_lookAtClock : Simulates (Alike R) lookAtClock lookAtClock := by
  refine get_bind fun s t alike => ?_
  have later : s.timer.looked = t.timer.looked := congrArg Timer.looked alike.timer
  have now : s.timer.now = t.timer.now := congrArg Timer.now alike.timer
  rw [now]
  exact (Action.Simulates.set { alike with timer := later }).bind fun _ => pure _

theorem simulates_pause : Simulates (Alike R) pause pause := by
  refine get_bind fun s t alike => ?_
  rw [alike.config]
  refine (log _ _ _).bind fun _ => .modify fun s' t' alike' => ?_
  have later : s'.timer.wait t.config.pollInterval = t'.timer.wait t.config.pollInterval :=
    congrArg (Timer.wait · _) alike'.timer
  exact { alike' with timer := later }

theorem Alike.locate_eq {s : Session σ} {t : Session τ} (alike : Alike R s t) (name : String)
    (width : Option TransferWidth) : s.locate name width = t.locate name width := by
  rw [locate, locate, alike.width]

theorem simulates_locateFor (name : String) (value : Value) (width : Option TransferWidth) :
    Simulates (Alike R) (locateFor name value width) (locateFor name value width) := by
  refine get_bind fun s t alike => ?_
  rw [alike.locate_eq]
  refine (Action.Simulates.ofExcept _).bind fun place => ?_
  split
  · exact pure place
  · exact simulates_failLogged _ _

theorem isLive_eq_true [Transport σ] [ReadsBack σ] (s : Session σ) : s.isLive = true :=
  ReadsBack.live s.transport

variable [Transport σ] [Transport τ]

theorem Alike.isLive_eq {s : Session σ} {t : Session τ} (alike : Alike R s t) (h : Transport.Agree R) :
    s.isLive = t.isLive :=
  h.live alike.transport

section Accesses

variable (h : Transport.Agree R)

include h

theorem simulates_writeDmi (address : BusAddress) (data : Word) :
    Simulates (Alike R) (writeDmi address data) (writeDmi address data) :=
  (log _ _ _).bind fun _ => simulates_onTransport (h.write address data)

theorem simulates_readDmi (address : BusAddress) :
    Simulates (Alike R) (readDmi address) (readDmi address) :=
  (simulates_onTransport (h.read address)).bind fun data => (log _ _ _).bind fun _ => pure data

theorem simulates_expectDmi (address : BusAddress) (expected mask : Word) (failure : String) :
    Simulates (Alike R) (expectDmi address expected mask failure)
      (expectDmi address expected mask failure) := by
  refine (simulates_onTransport (h.expect address expected mask)).bind fun check => ?_
  cases check with
  | passed => exact pure ()
  | deferred => exact pure ()
  | failed actual => exact simulates_failLogged _ _

theorem simulates_expectNoBusError (cleared : String) :
    Simulates (Alike R) (expectNoBusError cleared) (expectNoBusError cleared) := by
  refine get_bind fun s t alike => ?_
  rw [alike.isLive_eq h]
  split
  · refine (simulates_onTransport h.readDtmcs).bind fun status => ?_
    dsimp only
    split
    · exact simulates_failLogged _ _
    · exact pure _
  · exact pure _

theorem simulates_resetStickyError : Simulates (Alike R) resetStickyError resetStickyError :=
  (simulates_onTransport (h.writeDtmcs _)).bind fun _ => simulates_expectNoBusError h _

theorem simulates_hardResetDtm : Simulates (Alike R) hardResetDtm hardResetDtm :=
  (simulates_onTransport (h.writeDtmcs _)).bind fun _ => simulates_expectNoBusError h _

theorem simulates_activateDm : Simulates (Alike R) activateDm activateDm :=
  (log _ _ _).bind fun _ => (simulates_writeDmi h _ _).bind fun _ => simulates_expectDmi h _ _ _ _

theorem simulates_deactivateDm : Simulates (Alike R) deactivateDm deactivateDm :=
  (log _ _ _).bind fun _ => (simulates_writeDmi h _ _).bind fun _ => simulates_expectDmi h _ _ _ _

theorem simulates_resetDm : Simulates (Alike R) resetDm resetDm :=
  (simulates_deactivateDm h).bind fun _ => simulates_activateDm h

theorem simulates_readIdcode : Simulates (Alike R) readIdcode readIdcode :=
  (simulates_onTransport h.readIdcode).bind fun idcode => (log _ _ _).bind fun _ => pure idcode

theorem simulates_expectIdcode (expected : Word) :
    Simulates (Alike R) (expectIdcode expected) (expectIdcode expected) := by
  refine (simulates_onTransport (h.expectIdcode expected)).bind fun check => ?_
  cases check with
  | passed => exact pure ()
  | deferred => exact pure ()
  | failed actual => exact simulates_failLogged _ _

theorem simulates_diagnose : Simulates (Alike R) diagnose diagnose := by
  refine (simulates_onTransport h.readDtmcs).bind fun status => ?_
  dsimp only
  split
  · exact pure _
  · split
    · exact pure _
    · refine (simulates_readDmi h _).bind fun control => ?_
      split
      · refine (simulates_readDmi h _).bind fun abstractcs => ?_
        split
        · exact pure _
        · exact pure _
      · exact pure _

end Accesses

/-! ### Waiting for commands -/

section Waiting

variable (h : Transport.Agree R)

include h

theorem simulates_pollOnce (deadline : Nat) :
    Simulates (Alike R) (pollOnce deadline) (pollOnce deadline) := by
  refine (simulates_readDmi h _).bind fun abstractcs => ?_
  split
  · refine simulates_lookAtClock.bind fun now => ?_
    split
    · refine get_bind fun s t alike => ?_
      rw [alike.config]
      exact simulates_failLogged _ _
    · exact simulates_pause.bind fun _ => pure none
  · exact pure _

/-- A poll goes on alike, look by look. -/
theorem simulates_pollUntil (deadline : Nat) :
    Simulates (Alike R) (pollUntil deadline : Action DebugError (Session σ) Word)
      (pollUntil deadline : Action DebugError (Session τ) Word) := by
  refine induction_on_looks deadline fun s rest t alike => ?_
  obtain ⟨same, after⟩ := simulates_pollOnce h deadline s t alike
  rw [exec_pollUntil, exec_pollUntil]
  generalize (pollOnce deadline).exec s = look at same after rest
  generalize (pollOnce deadline).exec t = look' at same after
  obtain ⟨outcome, s'⟩ := look
  obtain ⟨outcome', t'⟩ := look'
  obtain rfl : outcome = outcome' := same
  rcases outcome with e | _ | abstractcs
  · exact ⟨rfl, after⟩
  · exact rest s' rfl t' after
  · exact ⟨rfl, after⟩

theorem simulates_pollAbstractcs : Simulates (Alike R) pollAbstractcs pollAbstractcs := by
  refine simulates_lookAtClock.bind fun started => get_bind fun s t alike => ?_
  rw [alike.config]
  exact simulates_pollUntil h _

/-- A pause for a command that cannot be looked at. -/
theorem simulates_settle {s : Session σ} {t : Session τ} (alike : Alike R s t)
    (offline : t.isLive = false) :
    ((onTransport (Transport.idle s.config.settleCycles)).exec s).1 =
        ((onTransport (Transport.idle t.config.settleCycles)).exec t).1 ∧
      Alike R ((onTransport (Transport.idle s.config.settleCycles)).exec s).2
        ((onTransport (Transport.idle t.config.settleCycles)).exec t).2 := by
  obtain ⟨same, after⟩ := h.idle t.config.settleCycles alike.transport offline
  rw [alike.config, exec_onTransport, exec_onTransport]
  exact ⟨same, { alike with transport := after }⟩

theorem simulates_waitForCommand : Simulates (Alike R) waitForCommand waitForCommand := by
  intro s t alike
  rw [waitForCommand, waitForCommand, Action.exec_bind_ok (Action.exec_get s),
    Action.exec_bind_ok (Action.exec_get t), alike.isLive_eq h]
  cases live : t.isLive with
  | true =>
    refine (simulates_pollAbstractcs h).bind (fun abstractcs => ?_) s t alike
    split
    · exact pure ()
    · exact throw _
  | false =>
    exact Action.Simulates.bind_at (simulates_settle h alike live) fun _ => simulates_expectDmi h _ _ _ _

theorem simulates_clearCommandError : Simulates (Alike R) clearCommandError clearCommandError := by
  refine (simulates_writeDmi h _ _).bind fun _ => get_bind fun s t alike => ?_
  rw [alike.isLive_eq h]
  split
  · refine (simulates_pollAbstractcs h).bind fun abstractcs => ?_
    split
    · exact pure ()
    · exact simulates_failLogged _ _
  · exact simulates_expectDmi h _ _ _ _

end Waiting

/-! ### Hart registers -/

section Registers

variable (h : Transport.Agree R)

include h

theorem simulates_moveRegister (place : Place) (isWrite : Bool) :
    Simulates (Alike R) (moveRegister place isWrite) (moveRegister place isWrite) :=
  (simulates_writeDmi h _ _).bind fun _ => simulates_waitForCommand h

theorem simulates_writeRegister (name : String) (value : Value) (width : Option TransferWidth) :
    Simulates (Alike R) (writeRegister name value width) (writeRegister name value width) := by
  refine (simulates_locateFor name value width).bind fun place => (log _ _ _).bind fun _ => ?_
  refine (Action.Simulates.forM (fun slot => simulates_writeDmi h _ _) _).bind fun _ => ?_
  exact simulates_moveRegister h place true

theorem simulates_readRegister (name : String) (width : Option TransferWidth) :
    Simulates (Alike R) (readRegister name width) (readRegister name width) := by
  refine get_bind fun s t alike => ?_
  rw [alike.locate_eq]
  refine (Action.Simulates.ofExcept _).bind fun place => get_bind fun s t alike => ?_
  rw [alike.isLive_eq h]
  split
  · refine (simulates_moveRegister h place false).bind fun _ => ?_
    refine (Action.Simulates.mapM (fun slot => simulates_readDmi h _) _).bind fun words => ?_
    exact (log _ _ _).bind fun _ => pure _
  · exact throw _

theorem simulates_expectRegister (name : String) (expected : Value) (width : Option TransferWidth) :
    Simulates (Alike R) (expectRegister name expected width) (expectRegister name expected width) := by
  refine (simulates_locateFor name expected width).bind fun place => ?_
  refine (simulates_moveRegister h place false).bind fun _ => ?_
  exact Action.Simulates.forM (fun slot => simulates_expectDmi h _ _ _ _) _

theorem simulates_dumpNames (group : RegisterGroup) (width : Option TransferWidth) :
    ∀ names : List String,
      Simulates (Alike R) (dumpNames group width names) (dumpNames group width names)
  | [] => pure []
  | name :: rest => by
    refine (simulates_readRegister h name width).attempt.bind fun outcome => ?_
    split
    · exact (simulates_dumpNames group width rest).bind fun others => pure _
    · exact (log _ _ _).bind fun _ => (simulates_clearCommandError h).bind fun _ => pure _
    · exact throw _

/-! ### Run control -/

theorem simulates_request (f : BitField) : Simulates (Alike R) (request f) (request f) :=
  simulates_writeDmi h _ _

theorem simulates_withdraw : Simulates (Alike R) withdraw withdraw :=
  simulates_writeDmi h _ _

theorem simulates_halt : Simulates (Alike R) halt halt :=
  (log _ _ _).bind fun _ => (simulates_request h _).bind fun _ =>
    (simulates_expectDmi h _ _ _ _).bind fun _ => simulates_withdraw h

theorem simulates_resume : Simulates (Alike R) resume resume :=
  (log _ _ _).bind fun _ => (simulates_request h _).bind fun _ => simulates_expectDmi h _ _ _ _

theorem simulates_currentDcsr : Simulates (Alike R) currentDcsr currentDcsr := by
  refine get_bind fun s t alike => ?_
  rw [alike.isLive_eq h]
  split
  · exact (simulates_readRegister h _ _).bind fun value => pure _
  · refine get_bind fun s t alike => ?_
    rw [alike.dcsrShadow]
    exact pure _

theorem simulates_writeDcsr (value : Word) : Simulates (Alike R) (writeDcsr value) (writeDcsr value) :=
  simulates_writeRegister h _ _ _

theorem simulates_step : Simulates (Alike R) step step := by
  refine (log _ _ _).bind fun _ => (simulates_currentDcsr h).bind fun dcsr => ?_
  have rest : Simulates (Alike R)
      (do
        request (τ := σ) Dmcontrol.resumereq
        writeDcsr (dcsr &&& ~~~ stepBit)
        modify fun s => { s with dcsrShadow := dcsr &&& ~~~ stepBit })
      (do
        request (τ := τ) Dmcontrol.resumereq
        writeDcsr (dcsr &&& ~~~ stepBit)
        modify fun s => { s with dcsrShadow := dcsr &&& ~~~ stepBit }) :=
    (simulates_request h _).bind fun _ => (simulates_writeDcsr h _).bind fun _ =>
      .modify fun s t alike => { alike with dcsrShadow := rfl }
  dsimp only
  split
  · exact (simulates_writeDcsr h _).bind fun _ => rest
  · exact rest

theorem simulates_resetHart : Simulates (Alike R) resetHart resetHart := by
  refine (log _ _ _).bind fun _ => (simulates_request h _).bind fun _ => ?_
  refine (simulates_withdraw h).bind fun _ => (simulates_expectDmi h _ _ _ _).bind fun _ => ?_
  exact (simulates_request h _).bind fun _ => .modify fun s t alike => { alike with dcsrShadow := rfl }

/-! ### Programs -/

theorem simulates_discoverProgbufSize :
    Simulates (Alike R) discoverProgbufSize discoverProgbufSize := by
  refine (simulates_readDmi h _).bind fun abstractcs => (log _ _ _).bind fun _ => ?_
  refine Action.Simulates.bind (.modify fun s t alike => ?_) fun _ => pure _
  exact { alike with progbufCapacity := rfl }

theorem simulates_loadFrom :
    ∀ (i : Nat) (program : List Word),
      Simulates (Alike R) (loadFrom i program) (loadFrom i program)
  | _, [] => pure ()
  | i, _ :: rest =>
    (log _ _ _).bind fun _ => (simulates_writeDmi h _ _).bind fun _ => simulates_loadFrom (i + 1) rest

theorem simulates_loadProgram (program : List Word) :
    Simulates (Alike R) (loadProgram program) (loadProgram program) := by
  refine get_bind fun s t alike => ?_
  have same : s.programLimit = t.programLimit := by
    rw [programLimit, programLimit, alike.progbufCapacity]
  rw [same]
  dsimp only
  split
  · exact simulates_failLogged _ _
  · exact (log _ _ _).bind fun _ => simulates_loadFrom h 0 program

theorem simulates_executeProgram : Simulates (Alike R) executeProgram executeProgram := by
  refine (log _ _ _).bind fun _ => (simulates_writeDmi h _ _).bind fun _ => fun s t alike => ?_
  rw [Action.exec_bind_ok (Action.exec_get s), Action.exec_bind_ok (Action.exec_get t),
    alike.isLive_eq h]
  cases live : t.isLive with
  | true => exact simulates_waitForCommand h s t alike
  | false => exact simulates_settle h alike live

end Registers

end Session

/-! ## Operations -/

namespace Operation

open Session

/-- The operation neither opens nor closes the way to the target. -/
def KeepsConnection (op : Operation) : Prop :=
  op ≠ .connect ∧ op ≠ .disconnect

instance (op : Operation) : Decidable op.KeepsConnection :=
  inferInstanceAs (Decidable (op ≠ .connect ∧ op ≠ .disconnect))

theorem simulates_done {x : Action DebugError (Session σ) Unit} {y : Action DebugError (Session τ) Unit}
    (h : Simulates (Alike R) x y) :
    Simulates (Alike R) (do x; pure Reply.done) (do y; pure Reply.done) :=
  h.bind fun _ => .pure Reply.done

section

variable [Transport σ]

/-- Do operations one after another, also after some have failed, with the outcome of each. -/
def performEach : List Operation → Action DebugError (Session σ) (List (Except DebugError Reply))
  | [] => pure []
  | op :: rest => do
    let outcome ← Action.attempt op.perform
    let others ← performEach rest
    pure (outcome :: others)

/-- The operations after the first run where it has ended. -/
theorem exec_performEach_cons (op : Operation) (rest : List Operation) (s : Session σ) :
    (performEach (op :: rest)).exec s =
      (((performEach rest).exec (op.perform.exec s).2).1.map ((op.perform.exec s).1 :: ·),
        ((performEach rest).exec (op.perform.exec s).2).2) := by
  rw [performEach, Action.exec_bind_ok (Action.exec_attempt op.perform s)]
  exact Action.exec_map _ (performEach rest) _

/-- What several operations end in is the outcome of the first, and those of the others after it. -/
theorem performEach_cons_eq_ok {op : Operation} {rest : List Operation} {s t : Session σ}
    {outcomes : List (Except DebugError Reply)}
    (ran : (performEach (op :: rest)).exec s = (.ok outcomes, t)) :
    ∃ others, (performEach rest).exec (op.perform.exec s).2 = (.ok others, t) ∧
      outcomes = (op.perform.exec s).1 :: others := by
  rw [exec_performEach_cons] at ran
  generalize (performEach rest).exec (op.perform.exec s).2 = after at ran ⊢
  obtain ⟨outcome, t'⟩ := after
  cases outcome with
  | error e => cases ran
  | ok others =>
    cases ran
    exact ⟨others, rfl, rfl⟩

/-- Operations that follow others run where these have ended. -/
theorem exec_performEach_append (first second : List Operation) (s : Session σ) :
    ((performEach (first ++ second)).exec s).2 =
      ((performEach second).exec ((performEach first).exec s).2).2 := by
  induction first generalizing s with
  | nil => rfl
  | cons op rest ih =>
    rw [List.cons_append, exec_performEach_cons, exec_performEach_cons]
    exact ih _

end

variable [Transport σ] [Transport τ]

/-- **Every operation goes through alike** over related transports. -/
theorem simulates_perform (h : Transport.Agree R) {op : Operation} (keeps : op.KeepsConnection) :
    Simulates (Alike R) (op.perform (τ := σ)) (op.perform (τ := τ)) := by
  cases op with
  | writeDmi address data => exact simulates_done (simulates_writeDmi h address data)
  | readDmi address => exact (simulates_readDmi h address).map _
  | expectDmi address expected mask failure =>
    exact simulates_done (simulates_expectDmi h address expected mask failure)
  | resetStickyError => exact simulates_done (simulates_resetStickyError h)
  | hardResetDtm => exact simulates_done (simulates_hardResetDtm h)
  | activateDm => exact simulates_done (simulates_activateDm h)
  | deactivateDm => exact simulates_done (simulates_deactivateDm h)
  | resetDm => exact simulates_done (simulates_resetDm h)
  | resetTap => exact simulates_done (simulates_onTransport h.resetTap)
  | readIdcode => exact (simulates_readIdcode h).map _
  | expectIdcode expected => exact simulates_done (simulates_expectIdcode h expected)
  | diagnose => exact (simulates_diagnose h).map _
  | writeRegister name value width => exact simulates_done (simulates_writeRegister h name value width)
  | readRegister name width => exact (simulates_readRegister h name width).map _
  | expectRegister name expected width =>
    exact simulates_done (simulates_expectRegister h name expected width)
  | waitForCommand => exact simulates_done (simulates_waitForCommand h)
  | clearCommandError => exact simulates_done (simulates_clearCommandError h)
  | dumpRegisters group width => exact (simulates_dumpNames h group width _).map _
  | discoverProgbufSize => exact (simulates_discoverProgbufSize h).map _
  | halt => exact simulates_done (simulates_halt h)
  | resume => exact simulates_done (simulates_resume h)
  | step => exact simulates_done (simulates_step h)
  | resetHart => exact simulates_done (simulates_resetHart h)
  | setHaltOnReset =>
    exact simulates_done ((Simulates.log _ _ _).bind fun _ => simulates_request h _)
  | clearHaltOnReset =>
    exact simulates_done ((Simulates.log _ _ _).bind fun _ => simulates_request h _)
  | hartStatus => exact ((simulates_readDmi h _).bind fun status => .pure _).map _
  | loadProgram program => exact simulates_done (simulates_loadProgram h program)
  | executeProgram => exact simulates_done (simulates_executeProgram h)
  | setWidth width =>
    exact simulates_done (.modify fun s t alike => { alike with width := rfl })
  | connect => exact absurd rfl keeps.1
  | disconnect => exact absurd rfl keeps.2

/-- Operations that go through alike one by one do so one after another, by induction on the sequence; an
operation that fails is followed by the next. -/
theorem simulates_performEach_of :
    ∀ {ops : List Operation},
      (∀ op ∈ ops, Simulates (Alike R) (op.perform (τ := σ)) (op.perform (τ := τ))) →
        Simulates (Alike R) (performEach (σ := σ) ops) (performEach (σ := τ) ops)
  | [], _ => .pure []
  | op :: rest, alike => by
    refine (alike op List.mem_cons_self).attempt.bind fun outcome => ?_
    exact (simulates_performEach_of fun op' mem => alike op' (List.mem_cons_of_mem op mem)).bind
      fun others => .pure (outcome :: others)

/-- **Every sequence of operations goes through alike.** -/
theorem simulates_performEach (h : Transport.Agree R) {ops : List Operation}
    (keeps : ∀ op ∈ ops, op.KeepsConnection) :
    Simulates (Alike R) (performEach (σ := σ) ops) (performEach (σ := τ) ops) :=
  simulates_performEach_of fun op mem => simulates_perform h (keeps op mem)

end Operation

end HartDebug
