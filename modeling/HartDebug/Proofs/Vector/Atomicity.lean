import HartDebug.Proofs.Session.Places
import HartDebug.Proofs.Session.Refinement
import HartDebug.Proofs.Triples
import HartDebug.Proofs.Vector.Recording
import HartDebug.Transport.Call

/-!
# Recordings grow by whole operations

A recorded script is replayed later, so half of an operation must never stand in it.  An operation that a
session with a recording refuses is refused before it has recorded anything: because it would have to read
something back, because it names no register, or because what it carries does not fit.  Everything after
these checks only adds to the end of the recording and cannot fail.

* `Session.Records` — an action that cannot fail and adds at the end, with a rule for each construct;
* `Operation.refusal?`, `TransportCall.refusal?` — why something is refused;
* `perform_refused`, `perform_recorded` — **refused with nothing done, or recorded to the end**;
* `recording_atomic` — **every operation and every call is whole or nothing**;
* `performEach_recorded` — a run past failures records what its successful operations record.
-/

namespace HartDebug

/-- An error that is found before anything is done. -/
def DebugError.IsUpFront : DebugError → Prop
  | .unsupported _ => True
  | .unknownRegister _ => True
  | .valueOutOfRange _ _ => True
  | .programTooLarge _ _ => True
  | .invalidWidth _ => True
  | _ => False

/-- A recording with more directives at its end has a text with more at its end. -/
theorem VectorEmitter.artifact_append {e e' : VectorEmitter} (h : e.directives <+: e'.directives) :
    ∃ more, e'.artifact = e.artifact ++ more := by
  obtain ⟨added, grown⟩ := h
  refine ⟨Directive.script added, ?_⟩
  rw [artifact, artifact, ← grown, Directive.script, List.map_append, String.join_append]
  rfl

namespace Session

variable {α β : Type} {s : Session VectorEmitter}

/-! ## Actions that only record -/

/-- The action does not fail there, and it leaves what was recorded before at the front. -/
def Records (x : Action DebugError (Session VectorEmitter) α) (s : Session VectorEmitter) : Prop :=
  ∃ a t, x.exec s = (.ok a, t) ∧ s.transport.directives <+: t.transport.directives

namespace Records

theorem pure (a : α) : Records (pure a) s :=
  ⟨a, s, rfl, List.prefix_rfl⟩

theorem log (level : Level) (source : Source) (text : String) :
    Records (Action.log level source text) s :=
  ⟨(), s, rfl, List.prefix_rfl⟩

/-- What a session remembers besides its recording is not recorded. -/
theorem modify {f : Session VectorEmitter → Session VectorEmitter}
    (same : (f s).transport = s.transport) : Records (modify f) s :=
  ⟨⟨⟩, f s, rfl, same ▸ List.prefix_rfl⟩

/-- **One action after another.** -/
theorem bind {x : Action DebugError (Session VectorEmitter) α}
    {f : α → Action DebugError (Session VectorEmitter) β} (first : Records x s)
    (second : ∀ a t, Records (f a) t) : Records (x >>= f) s := by
  obtain ⟨a, t, ran, grown⟩ := first
  obtain ⟨b, t', ran', grown'⟩ := second a t
  exact ⟨b, t', by rw [Action.exec_bind_ok ran, ran'], grown.trans grown'⟩

/-- After a look at the session. -/
theorem get_bind {f : Session VectorEmitter → Action DebugError (Session VectorEmitter) β}
    (h : Records (f s) s) : Records (get >>= f) s :=
  h

theorem map {x : Action DebugError (Session VectorEmitter) α} (f : α → β) (h : Records x s) :
    Records (f <$> x) s :=
  h.bind fun a _ => pure (f a)

theorem forM {f : β → Action DebugError (Session VectorEmitter) PUnit} (h : ∀ b t, Records (f b) t) :
    ∀ (l : List β) {s : Session VectorEmitter}, Records (l.forM f) s
  | [], _ => pure _
  | b :: l, _ => by
    show Records (f b >>= fun _ => l.forM f) _
    exact (h b _).bind fun _ _ => forM h l

/-- An access that adds directives at the end of a recording, whatever the recording. -/
theorem onTransport {x : Action DebugError VectorEmitter α}
    (adds : ∀ e, ∃ a added i, x.exec e = (.ok a, e.adding added i)) : Records (onTransport x) s := by
  obtain ⟨a, added, i, ran⟩ := adds s.transport
  refine ⟨a, s.withTransport (s.transport.adding added i), ?_, List.prefix_append _ added⟩
  rw [exec_onTransport, ran]

end Records

open Records (log get_bind)
open VectorEmitter (exec_write exec_writeDtmcs exec_expect exec_expectIdcode exec_resetTap exec_idle)

theorem records_writeDmi (address : BusAddress) (data : Word) : Records (writeDmi address data) s :=
  (log _ _ _).bind fun _ _ => .onTransport fun e => ⟨_, _, _, exec_write address data e⟩

/-- What is recorded as an expectation is met for now, so nothing follows it. -/
theorem records_expectDmi (address : BusAddress) (expected mask : Word) (failure : String) :
    Records (expectDmi address expected mask failure) s :=
  ⟨_, _, exec_expectDmi_recording s address expected mask failure, List.prefix_append _ _⟩

theorem records_expectIdcode (expected : Word) : Records (expectIdcode expected) s := by
  refine ⟨(), s.withTransport (s.transport.expectingIdcode expected), ?_, List.prefix_append _ _⟩
  rw [expectIdcode, Action.exec_bind_ok (by rw [exec_onTransport, exec_expectIdcode expected])]
  rfl

theorem records_writeDtmcs (value : Word) :
    Records (Session.onTransport (Bus.writeDtmcs (τ := VectorEmitter) value)) s :=
  .onTransport fun e => ⟨_, _, _, exec_writeDtmcs value e⟩

theorem records_idle (cycles : Nat) :
    Records (Session.onTransport (Transport.idle (τ := VectorEmitter) cycles)) s :=
  .onTransport fun e => ⟨_, _, _, exec_idle cycles e⟩

theorem records_resetTap : Records resetTap s :=
  .onTransport fun e => ⟨_, _, _, exec_resetTap e⟩

/-- A recording has no error status to look at. -/
theorem records_expectNoBusError (cleared : String) : Records (expectNoBusError cleared) s := by
  refine get_bind ?_
  rw [isLive_recording, if_neg (by decide)]
  exact .pure _

theorem records_waitForCommand : Records waitForCommand s := by
  refine get_bind ?_
  rw [isLive_recording, if_neg (by decide)]
  exact get_bind ((records_idle _).bind fun _ _ => records_expectDmi _ _ _ _)

theorem records_clearCommandError : Records clearCommandError s := by
  refine (records_writeDmi _ _).bind fun _ t => get_bind ?_
  rw [isLive_recording, if_neg (by decide)]
  exact records_expectDmi _ _ _ _

theorem records_executeProgram : Records executeProgram s := by
  refine (log _ _ _).bind fun _ _ => (records_writeDmi _ _).bind fun _ t => get_bind ?_
  rw [isLive_recording, if_neg (by decide)]
  exact get_bind (records_idle _)

theorem records_loadFrom : ∀ (i : Nat) (program : List Word) {s : Session VectorEmitter},
    Records (loadFrom i program) s
  | _, [], _ => .pure ()
  | i, _ :: rest, _ =>
    (log _ _ _).bind fun _ _ => (records_writeDmi _ _).bind fun _ _ => records_loadFrom (i + 1) rest

theorem records_moveRegister (place : Place) (isWrite : Bool) :
    Records (moveRegister place isWrite) s :=
  (records_writeDmi _ _).bind fun _ _ => records_waitForCommand

/-- A register write that is not refused is recorded to its end. -/
theorem records_writeRegister {name : String} {value : Value} {width : Option TransferWidth}
    (accepted : s.placeRefusal? name value width = none) :
    Records (writeRegister name value width) s := by
  obtain ⟨place, found⟩ := exists_exec_locateFor accepted
  refine Records.bind ⟨place, s, found, List.prefix_rfl⟩ fun place _ => ?_
  refine (log _ _ _).bind fun _ _ => ?_
  exact (Records.forM (fun _ _ => records_writeDmi _ _) _).bind fun _ _ => records_moveRegister place true

theorem records_expectRegister {name : String} {expected : Value} {width : Option TransferWidth}
    (accepted : s.placeRefusal? name expected width = none) :
    Records (expectRegister name expected width) s := by
  obtain ⟨place, found⟩ := exists_exec_locateFor accepted
  refine Records.bind ⟨place, s, found, List.prefix_rfl⟩ fun place _ => ?_
  refine (records_moveRegister place false).bind fun _ _ => ?_
  exact Records.forM (fun _ _ => records_expectDmi _ _ _ _) _

theorem records_halt : Records halt s :=
  (log _ _ _).bind fun _ _ => (records_writeDmi _ _).bind fun _ _ =>
    (records_expectDmi _ _ _ _).bind fun _ _ => records_writeDmi _ _

theorem records_resume : Records resume s :=
  (log _ _ _).bind fun _ _ => (records_writeDmi _ _).bind fun _ _ => records_expectDmi _ _ _ _

/-- The value that a step writes to `dcsr` is a word, which is never refused. -/
theorem records_writeDcsr (w : Word) : Records (writeDcsr w) s := by
  refine records_writeRegister ?_
  rw [placeRefusal?, locate_dcsr]
  exact if_pos (fits_word s.width w)

/-- **A step** writes `dcsr` twice, and the second write is as sure as the first. -/
theorem records_step : Records step s := by
  refine (log _ _ _).bind fun _ t => ?_
  refine Records.bind ⟨t.dcsrShadow, t, rfl, List.prefix_rfl⟩ fun dcsr t => ?_
  have finish : ∀ t, Records (request (τ := VectorEmitter) Dmcontrol.resumereq >>= fun _ => do
      writeDcsr (dcsr &&& ~~~ stepBit)
      modify fun s => { s with dcsrShadow := dcsr &&& ~~~ stepBit }) t := fun t =>
    (records_writeDmi _ _).bind fun _ _ => (records_writeDcsr _).bind fun _ _ => .modify rfl
  split
  · exact (records_writeDcsr _).bind fun _ t => finish t
  · exact finish t

theorem records_resetHart : Records resetHart s :=
  (log _ _ _).bind fun _ _ => (records_writeDmi _ _).bind fun _ _ => (records_writeDmi _ _).bind
    fun _ _ => (records_expectDmi _ _ _ _).bind fun _ _ => (records_writeDmi _ _).bind
    fun _ _ => .modify rfl

theorem records_activateDm : Records activateDm s :=
  (log _ _ _).bind fun _ _ => (records_writeDmi _ _).bind fun _ _ => records_expectDmi _ _ _ _

theorem records_deactivateDm : Records deactivateDm s :=
  (log _ _ _).bind fun _ _ => (records_writeDmi _ _).bind fun _ _ => records_expectDmi _ _ _ _

/-- A program that is not too long is recorded to its end. -/
theorem records_loadProgram {program : List Word} (short : program.length ≤ s.programLimit) :
    Records (loadProgram program) s := by
  refine get_bind ?_
  show Records (if s.programLimit < program.length then _ else _) s
  rw [if_neg (by omega)]
  exact (log _ _ _).bind fun _ _ => records_loadFrom 0 program

end Session

/-! ## What is refused -/

namespace Operation

open Session
open Session.Records (log)

/-- The operation would have to read something back. -/
def NeedsRead : Operation → Prop
  | .readDmi _ => True
  | .readIdcode => True
  | .diagnose => True
  | .readRegister _ _ => True
  | .dumpRegisters _ _ => True
  | .discoverProgbufSize => True
  | .hartStatus => True
  | _ => False

/-- Why a session that records refuses an operation, if it does. -/
def refusal? (s : Session VectorEmitter) : Operation → Option DebugError
  | .readDmi _ => some (.unsupported .busRegisters)
  | .readIdcode => some (.unsupported .idcode)
  | .diagnose => some (.unsupported .dtmcs)
  | .readRegister name width =>
    match s.locate name width with
    | .error e => some e
    | .ok _ => some (.unsupported .hartRegisters)
  | .dumpRegisters _ _ => some (.unsupported .hartRegisters)
  | .discoverProgbufSize => some (.unsupported .busRegisters)
  | .hartStatus => some (.unsupported .busRegisters)
  | .writeRegister name value width => s.placeRefusal? name value width
  | .expectRegister name expected width => s.placeRefusal? name expected width
  | .loadProgram program =>
    if s.programLimit < program.length then some (.programTooLarge program.length s.programLimit)
    else none
  | _ => none

variable {s : Session VectorEmitter} {op : Operation} {e : DebugError}

/-- Whatever is refused is refused with an error that is found up front. -/
theorem isUpFront_of_refusal? (refused : op.refusal? s = some e) : e.IsUpFront := by
  have of_place {name : String} {value : Value} {width : Option TransferWidth}
      (refused : s.placeRefusal? name value width = some e) : e.IsUpFront := by
    rw [placeRefusal?] at refused
    split at refused
    · next e' unknown =>
      rw [← Option.some.inj refused, locate_eq_error unknown]
      trivial
    · split at refused
      · cases refused
      · rw [← Option.some.inj refused]
        trivial
  cases op with
  | readRegister name width =>
    rw [refusal?] at refused
    split at refused
    · next e' unknown =>
      rw [← Option.some.inj refused, locate_eq_error unknown]
      trivial
    · rw [← Option.some.inj refused]
      trivial
  | writeRegister name value width => exact of_place refused
  | expectRegister name expected width => exact of_place refused
  | loadProgram program =>
    rw [refusal?] at refused
    split at refused
    · rw [← Option.some.inj refused]
      trivial
    · cases refused
  | readDmi _ | readIdcode | diagnose | dumpRegisters _ _ | discoverProgbufSize | hartStatus =>
    rw [← Option.some.inj refused]
    trivial
  | _ => cases refused

/-- Whatever would have to read something back is refused. -/
theorem exists_refusal? (reads : op.NeedsRead) : ∃ e, op.refusal? s = some e := by
  cases op with
  | readRegister name width =>
    rw [refusal?]
    split
    · exact ⟨_, rfl⟩
    · exact ⟨_, rfl⟩
  | readDmi _ | readIdcode | diagnose | dumpRegisters _ _ | discoverProgbufSize | hartStatus =>
    exact ⟨_, rfl⟩
  | _ => exact reads.elim

/-- The first register of every group has a place. -/
theorem exists_members_eq_cons (s : Session VectorEmitter) (group : RegisterGroup)
    (width : Option TransferWidth) :
    ∃ name rest place, group.members = name :: rest ∧ s.locate name width = .ok place := by
  rw [← Catalog.map_fst_registers]
  cases registers : group.registers with
  | nil => cases group <;> cases registers
  | cons first rest =>
    have listed : (first.1, first.2) ∈ group.registers := registers ▸ List.mem_cons_self
    obtain ⟨place, located⟩ :=
      exists_locate (s := s) (Catalog.resolve_of_mem_registers listed) width
    exact ⟨first.1, rest.map (·.1), place, rfl, located⟩

/-- A register that has a place still cannot be read back. -/
theorem exec_readRegister_recording {name : String} {width : Option TransferWidth} {place : Place}
    (located : s.locate name width = .ok place) :
    (Session.readRegister name width).exec s = (.error (.unsupported .hartRegisters), s) := by
  rw [Session.readRegister, Action.exec_bind_ok (Action.exec_get s), located,
    Action.exec_bind_ok (Action.exec_ofExcept _ s), Action.exec_bind_ok (Action.exec_get s),
    isLive_recording, if_neg (by decide), Action.exec_throw]

/-- **What is refused is refused with nothing done.** -/
theorem perform_refused (refused : op.refusal? s = some e) : op.perform.exec s = (.error e, s) := by
  cases op with
  | readRegister name width =>
    rw [refusal?] at refused
    split at refused
    · next e' unknown =>
      refine Action.exec_bind_error ?_ _
      rw [exec_readRegister_of_unknown unknown, Option.some.inj refused]
    · next place located =>
      rw [← Option.some.inj refused]
      exact Action.exec_bind_error (exec_readRegister_recording located) _
  | dumpRegisters group width =>
    obtain ⟨name, rest, place, members, located⟩ := exists_members_eq_cons s group width
    refine Action.exec_bind_error ?_ _
    rw [← Option.some.inj refused, Session.dumpRegisters, members, dumpNames,
      Action.exec_bind_ok (Action.exec_attempt _ s), exec_readRegister_recording located]
    rfl
  | writeRegister name value width =>
    exact Action.exec_bind_error (Action.exec_bind_error (exec_locateFor_refused refused) _) _
  | expectRegister name expected width =>
    exact Action.exec_bind_error (Action.exec_bind_error (exec_locateFor_refused refused) _) _
  | loadProgram program =>
    rw [refusal?] at refused
    split at refused
    · next long =>
      refine Action.exec_bind_error ?_ _
      rw [Session.loadProgram, Action.exec_bind_ok (Action.exec_get s), ← Option.some.inj refused]
      show (if s.programLimit < program.length then _ else _ : Action DebugError _ _).exec s = _
      rw [if_pos long, exec_failLogged]
    · cases refused
  | readDmi _ | readIdcode | diagnose | discoverProgbufSize | hartStatus =>
    rw [← Option.some.inj refused]
    rfl
  | _ => cases refused

/-- **What is not refused is recorded to its end.** -/
theorem perform_recorded (open_ : op ≠ .disconnect) (accepted : op.refusal? s = none) :
    Records op.perform s := by
  have done {x : Action DebugError (Session VectorEmitter) Unit} (h : Records x s) :
      Records (do x; pure Reply.done) s := h.bind fun _ _ => .pure _
  cases op with
  | writeDmi address data => exact done (records_writeDmi address data)
  | expectDmi address expected mask failure =>
    exact done (records_expectDmi address expected mask failure)
  | resetStickyError =>
    exact done ((records_writeDtmcs _).bind fun _ _ => records_expectNoBusError _)
  | hardResetDtm =>
    exact done ((records_writeDtmcs _).bind fun _ _ => records_expectNoBusError _)
  | activateDm => exact done records_activateDm
  | deactivateDm => exact done records_deactivateDm
  | resetDm => exact done (records_deactivateDm.bind fun _ _ => records_activateDm)
  | resetTap => exact done records_resetTap
  | expectIdcode expected => exact done (records_expectIdcode expected)
  | writeRegister name value width => exact done (records_writeRegister accepted)
  | expectRegister name expected width => exact done (records_expectRegister accepted)
  | waitForCommand => exact done records_waitForCommand
  | clearCommandError => exact done records_clearCommandError
  | halt => exact done records_halt
  | resume => exact done records_resume
  | step => exact done records_step
  | resetHart => exact done records_resetHart
  | setHaltOnReset => exact done ((log _ _ _).bind fun _ _ => records_writeDmi _ _)
  | clearHaltOnReset => exact done ((log _ _ _).bind fun _ _ => records_writeDmi _ _)
  | loadProgram program =>
    refine done (records_loadProgram ?_)
    rw [refusal?] at accepted
    split at accepted
    · cases accepted
    · omega
  | executeProgram => exact done records_executeProgram
  | setWidth width => exact done (.modify rfl)
  | connect => exact done ⟨(), s, rfl, List.prefix_rfl⟩
  | disconnect => exact absurd rfl open_
  | readRegister name width =>
    rw [refusal?] at accepted
    split at accepted <;> cases accepted
  | readDmi _ | readIdcode | diagnose | dumpRegisters _ _ | discoverProgbufSize | hartStatus =>
    cases accepted

/-- **A run past failures** leaves what its successful operations leave by themselves.  By induction on the
run: a refused operation drops out, and any other one is performed where the ones before it have ended. -/
theorem performEach_recorded : ∀ {ops : List Operation}, (∀ op ∈ ops, op ≠ .disconnect) →
    ∀ s : Session VectorEmitter, ∃ outcomes kept t, (performEach ops).exec s = (.ok outcomes, t) ∧
      kept.Sublist ops ∧ (performAll kept).exec s = (.ok (outcomes.filterMap Except.toOption), t)
  | [], _, s => ⟨[], [], s, rfl, .slnil, rfl⟩
  | op :: rest, open_, s => by
    have open_rest : ∀ op' ∈ rest, op' ≠ .disconnect := fun op' mem =>
      open_ op' (List.mem_cons_of_mem op mem)
    cases refusal : op.refusal? s with
    | some e =>
      obtain ⟨outcomes, kept, t, ran, part, alone⟩ := performEach_recorded open_rest s
      refine ⟨.error e :: outcomes, kept, t, ?_, part.cons op, alone⟩
      rw [exec_performEach_cons, perform_refused refusal, ran]
      rfl
    | none =>
      obtain ⟨reply, t₁, recorded, -⟩ := perform_recorded (open_ op List.mem_cons_self) refusal
      obtain ⟨outcomes, kept, t, ran, part, alone⟩ := performEach_recorded open_rest t₁
      refine ⟨.ok reply :: outcomes, op :: kept, t, ?_, part.cons_cons op, ?_⟩
      · rw [exec_performEach_cons, recorded, ran]
        rfl
      · rw [performAll, Action.exec_bind_ok recorded, Action.exec_bind_ok alone]
        rfl

end Operation

/-! ## Calls on the transport -/

namespace TransportCall

open Session

/-- The call would have to read something back. -/
def NeedsRead : TransportCall → Prop
  | .read _ => True
  | .readDtmcs => True
  | .readIdcode => True
  | _ => False

variable {s : Session VectorEmitter} {call : TransportCall}

theorem perform_refused (reads : call.NeedsRead) :
    ∃ what, (onTransport call.perform).exec s = (.error (.unsupported what), s) := by
  cases call with
  | read address => exact ⟨.busRegisters, rfl⟩
  | readDtmcs => exact ⟨.dtmcs, rfl⟩
  | readIdcode => exact ⟨.idcode, rfl⟩
  | _ => exact reads.elim

theorem perform_recorded (open_ : call ≠ .disconnect) (offline : ¬ call.NeedsRead) :
    Records (onTransport (call.perform (τ := VectorEmitter))) s := by
  have done {x : Action DebugError VectorEmitter Unit} {e : VectorEmitter}
      (h : x.exec s.transport = (.ok (), e))
      (grown : s.transport.directives <+: e.directives) :
      Records (onTransport (do x; pure Answer.done)) s :=
    ⟨_, s.withTransport e, by rw [exec_onTransport, Action.exec_bind_ok h]; rfl, grown⟩
  cases call with
  | connect => exact done rfl List.prefix_rfl
  | disconnect => exact absurd rfl open_
  | write address data =>
    exact done (VectorEmitter.exec_write address data _) (List.prefix_append _ _)
  | expect address expected mask =>
    refine ⟨.check .deferred, s.withTransport (s.transport.expecting address expected mask), ?_,
      List.prefix_append _ _⟩
    rw [exec_onTransport, perform,
      Action.exec_map_ok (VectorEmitter.exec_expect address expected mask _)]
  | writeDtmcs value =>
    exact done (VectorEmitter.exec_writeDtmcs value _) (List.prefix_append _ _)
  | expectIdcode expected =>
    refine ⟨.check .deferred, s.withTransport (s.transport.expectingIdcode expected), ?_,
      List.prefix_append _ _⟩
    rw [exec_onTransport, perform, Action.exec_map_ok (VectorEmitter.exec_expectIdcode expected _)]
  | resetTap => exact done (VectorEmitter.exec_resetTap _) (List.prefix_append _ _)
  | idle cycles => exact done (VectorEmitter.exec_idle cycles _) (List.prefix_append _ _)
  | annotate note => exact done (VectorEmitter.exec_push (.note note) _) (List.prefix_append _ _)
  | read _ | readDtmcs | readIdcode => exact absurd trivial offline

end TransportCall

/-! ## Whole or nothing -/

namespace Session

/-- How something done on a session that records may end: with an answer, and a recording that goes on
from where it was, or with an error that is found up front, and everything as it was. -/
def WholeOrNothing {α : Type} (s : Session VectorEmitter) :
    Except DebugError α × Session VectorEmitter → Prop :=
  Action.Ends (fun _ t => ∃ more, t.transport.artifact = s.transport.artifact ++ more)
    (fun e t => e.IsUpFront ∧ t = s)

theorem Records.wholeOrNothing {α : Type} {s : Session VectorEmitter}
    {x : Action DebugError (Session VectorEmitter) α} (h : Records x s) :
    s.WholeOrNothing (x.exec s) := by
  obtain ⟨a, t, ran, grown⟩ := h
  rw [ran]
  exact VectorEmitter.artifact_append grown

/-- **Operations and calls on a recording are atomic, and only add at its end.**  The operations that fail
are those that are refused, among them all that would have to read something back. -/
theorem recording_atomic (s : Session VectorEmitter) :
    (∀ op : Operation, op ≠ .disconnect → s.WholeOrNothing (op.perform.exec s) ∧
      ((∃ e t, op.perform.exec s = (.error e, t)) ↔ op.refusal? s ≠ none)) ∧
    (∀ call : TransportCall, call ≠ .disconnect →
      s.WholeOrNothing ((onTransport call.perform).exec s)) ∧
    (∀ op : Operation, op.NeedsRead → ∃ e, op.perform.exec s = (.error e, s)) ∧
    (∀ call : TransportCall, call.NeedsRead →
      ∃ e, (onTransport call.perform).exec s = (.error e, s)) := by
  refine ⟨fun op open_ => ?_, fun call open_ => ?_, fun op reads => ?_, fun call reads => ?_⟩
  · cases refusal : op.refusal? s with
    | some e =>
      have refused := Operation.perform_refused refusal
      refine ⟨?_, fun _ => Option.some_ne_none e, fun _ => ⟨e, s, refused⟩⟩
      rw [refused]
      exact ⟨Operation.isUpFront_of_refusal? refusal, rfl⟩
    | none =>
      have recorded := Operation.perform_recorded open_ refusal
      refine ⟨recorded.wholeOrNothing, fun ⟨e, t, failed⟩ => ?_, fun accepted => absurd rfl accepted⟩
      obtain ⟨reply, t', ran, -⟩ := recorded
      rw [ran] at failed
      cases (Prod.mk.inj failed).1
  · by_cases reads : call.NeedsRead
    · obtain ⟨what, refused⟩ := TransportCall.perform_refused (s := s) reads
      rw [refused]
      exact ⟨trivial, rfl⟩
    · exact (TransportCall.perform_recorded open_ reads).wholeOrNothing
  · obtain ⟨e, refusal⟩ : ∃ e, op.refusal? s = some e := Operation.exists_refusal? reads
    exact ⟨e, Operation.perform_refused refusal⟩
  · obtain ⟨what, refused⟩ := TransportCall.perform_refused (s := s) reads
    exact ⟨.unsupported what, refused⟩

/-- A recording of a halt, for a program buffer of one word. -/
def haltRecorded : Session VectorEmitter :=
  ((Operation.perform .halt).exec
    (.fresh {} { progbufCapacity := some 1 } { clock := .steady 1 Nat.one_pos })).2

/-- A step adds to that recording, two instructions do not fit and leave it as it was, a note adds to it,
and the hart's status cannot be read. -/
theorem recording_atomic_after_halt :
    Operation.step ≠ .disconnect ∧
    haltRecorded.WholeOrNothing (Operation.step.perform.exec haltRecorded) ∧
    (Operation.loadProgram [0x13, 0x13]).perform.exec haltRecorded =
      (.error (.programTooLarge 2 1), haltRecorded) ∧
    TransportCall.annotate "stepped" ≠ .disconnect ∧
    haltRecorded.WholeOrNothing
      ((onTransport (TransportCall.annotate "stepped").perform).exec haltRecorded) ∧
    (∃ e, Operation.hartStatus.perform.exec haltRecorded = (.error e, haltRecorded)) ∧
    haltRecorded.transport.artifact =
      "SIR 5 TDI (11);\nSDR 41 TDI (4200000006);\nSDR 41 TDI (4400000001);\n" ++
        "SDR 41 TDI (00) TDO (0C00) MASK (0C03);\nSDR 41 TDI (4000000006);\n" := by
  obtain ⟨operations, calls, reads, -⟩ := recording_atomic haltRecorded
  refine ⟨by decide, (operations .step (by decide)).1, Operation.perform_refused rfl, by decide,
    calls (.annotate "stepped") (by decide), reads .hartStatus trivial, ?_⟩
  decide +kernel

end Session

end HartDebug
