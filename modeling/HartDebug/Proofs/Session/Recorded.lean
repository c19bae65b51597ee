import HartDebug.Proofs.Session.Refinement
import HartDebug.Transport.Recorded

/-!
# Sessions with a record of their accesses

A session over a bus that keeps a record runs as it does over the bus alone, with the same answers, the same
errors and after the same time; besides, it leaves the list of everything it has asked of the bus.

* `Session.recorded` — a session with its bus under record;
* `simulates_perform_recorded` — **a record makes no difference**;
* `Recorded.replay` — the bus that a record leads to;
* `Recorded.Allowed` — a record all of whose accesses were allowed where they were made.
-/

namespace HartDebug

open Action (Simulates)

variable {τ α : Type}

/-! ## Accesses -/

/-- What an access leaves of a bus. -/
def Access.after [Bus τ] (t : τ) : Access → τ
  | .connect => (Bus.connect.exec t).2
  | .disconnect => (Bus.disconnect.exec t).2
  | .write address data => ((Bus.write address data).exec t).2
  | .read address => ((Bus.read address).exec t).2
  | .writeDtmcs value => ((Bus.writeDtmcs value).exec t).2
  | .readDtmcs => (Bus.readDtmcs.exec t).2
  | .readIdcode => (Bus.readIdcode.exec t).2
  | .resetTap => (Bus.resetTap.exec t).2

/-- What is entered for an outcome. -/
def Answer.of (answer : α → Answer) : Except DebugError α → Answer
  | .ok a => answer a
  | .error e => .failed e

namespace Recorded

theorem exec_enter (access : Access) (answer : α → Answer) (x : Action DebugError τ α) (r : Recorded τ) :
    (enter access answer x).exec r =
      ((x.exec r.bus).1, ⟨(x.exec r.bus).2, r.record ++ [⟨access, .of answer (x.exec r.bus).1⟩]⟩) := by
  unfold enter Action.exec Action.run
  dsimp only
  cases (x r.bus).outcome <;> rfl

/-- The bus that a record leads to. -/
def replay [Bus τ] (t : τ) (record : List Entry) : τ :=
  record.foldl (fun t entry => entry.access.after t) t

theorem replay_append [Bus τ] (t : τ) (first second : List Entry) :
    replay t (first ++ second) = replay (replay t first) second :=
  List.foldl_append

/-- The record leads from a bus to the present one, and every access in it was allowed of the bus that it
was made to. -/
structure Allowed [Bus τ] (allowed : τ → Access → Prop) (origin : τ) (r : Recorded τ) : Prop where
  replayed : r.bus = replay origin r.record
  each : ∀ before entry after, r.record = before ++ entry :: after →
    allowed (replay origin before) entry.access

namespace Allowed

variable [Bus τ] {allowed : τ → Access → Prop} {origin : τ} {r : Recorded τ}

theorem start (allowed : τ → Access → Prop) (origin : τ) : Allowed allowed origin ⟨origin, []⟩ where
  replayed := rfl
  each before entry after h := by simp at h

/-- One more access that is allowed of the present bus. -/
theorem entered (h : Allowed allowed origin r) {access : Access} (here : allowed r.bus access)
    (answer : Answer) :
    Allowed allowed origin ⟨access.after r.bus, r.record ++ [⟨access, answer⟩]⟩ where
  replayed := by
    rw [replay_append, ← h.replayed]
    rfl
  each before entry after split := by
    rcases List.append_eq_append_iff.1 split with ⟨rest, rfl, last⟩ | ⟨rest, within, last⟩
    · cases rest with
      | nil =>
        obtain ⟨rfl, -⟩ := List.cons.inj last
        rw [List.append_nil, ← h.replayed]
        exact here
      | cons other rest =>
        obtain ⟨-, none⟩ := List.cons.inj last
        simp at none
    · cases rest with
      | nil =>
        rw [List.append_nil] at within
        obtain ⟨rfl, -⟩ := List.cons.inj last.symm
        rw [← within, ← h.replayed]
        exact here
      | cons other rest =>
        obtain ⟨rfl, -⟩ := List.cons.inj last
        exact h.each before entry rest within

end Allowed

end Recorded

/-! ## The record makes no difference -/

section

variable [Transport τ] [ReadsBack τ]

instance : ReadsBack (Recorded τ) where
  live r := ReadsBack.live r.bus
  expect_eq := rfl
  expectIdcode_eq := rfl

/-- The bus of a record is the given one. -/
def Recorded.Over (r : Recorded τ) (t : τ) : Prop :=
  r.bus = t

omit [Transport τ] [ReadsBack τ] in
theorem Recorded.simulates_enter (access : Access) (answer : α → Answer) (x : Action DebugError τ α) :
    Simulates Recorded.Over (enter access answer x) x := by
  intro r t beneath
  obtain rfl : r.bus = t := beneath
  rw [exec_enter]
  exact ⟨rfl, rfl⟩

theorem refines_recorded : Transport.Refines (Recorded.Over (τ := τ)) where
  write _ _ := Recorded.simulates_enter _ _ _
  read _ := Recorded.simulates_enter _ _ _
  writeDtmcs _ := Recorded.simulates_enter _ _ _
  readDtmcs := Recorded.simulates_enter _ _ _
  readIdcode := Recorded.simulates_enter _ _ _
  resetTap := Recorded.simulates_enter _ _ _

namespace Session

omit [Transport τ] [ReadsBack τ] in
/-- What is done on the transport one after another is done on the session one after another. -/
theorem exec_onTransport_bind {β : Type} (x : Action DebugError τ α) (f : α → Action DebugError τ β)
    (s : Session τ) :
    (onTransport (x >>= f)).exec s = (onTransport x >>= fun a => onTransport (f a)).exec s := by
  rw [exec_onTransport, Action.exec_bind, Action.exec_bind, exec_onTransport]
  rcases x.exec s.transport with ⟨outcome, t⟩
  cases outcome <;> rfl

omit [ReadsBack τ] in
/-- An expectation that a transport leaves at its default is a read that is compared. -/
theorem exec_expectDmi_of_default
    (compares : (Transport.expect : BusAddress → Word → Word → Action DebugError τ Check) =
      Bus.readAndCompare) (address : BusAddress) (expected mask : Word) (failure : String)
    (s : Session τ) :
    (expectDmi address expected mask failure).exec s =
      (onTransport (Bus.read address) >>= fun actual =>
        if actual &&& mask = expected &&& mask then pure ()
        else failLogged .bus (.protocol (.mismatch failure address actual expected mask))).exec s := by
  rw [expectDmi, compares, Bus.readAndCompare, Action.exec_bind, exec_onTransport_bind,
    Action.exec_bind, Action.exec_bind]
  rcases (onTransport (Bus.read address)).exec s with ⟨outcome, s'⟩
  cases outcome with
  | error e => rfl
  | ok actual =>
    by_cases same : actual &&& mask = expected &&& mask
    · simp only [same, if_true]
      rfl
    · simp only [same, if_false]
      rfl

/-- Where values can be read back an expectation is a read that is compared. -/
theorem exec_expectDmi_eq (address : BusAddress) (expected mask : Word) (failure : String)
    (s : Session τ) :
    (expectDmi address expected mask failure).exec s =
      (onTransport (Bus.read address) >>= fun actual =>
        if actual &&& mask = expected &&& mask then pure ()
        else failLogged .bus (.protocol (.mismatch failure address actual expected mask))).exec s :=
  exec_expectDmi_of_default ReadsBack.expect_eq address expected mask failure s

omit [ReadsBack τ] in
/-- A write to the bus, with its entry in the record. -/
theorem exec_writeDmi_recorded (address : BusAddress) (data : Word) (s : Session (Recorded τ)) :
    (writeDmi address data).exec s =
      (((Bus.write address data).exec s.transport.bus).1, s.withTransport
        ⟨Access.after s.transport.bus (.write address data), s.transport.record ++
          [⟨.write address data, .of (fun _ => .done) ((Bus.write address data).exec s.transport.bus).1⟩]⟩) := by
  have entered := Recorded.exec_enter (.write address data) (fun _ => .done) (Bus.write address data)
    s.transport
  rw [writeDmi, Action.exec_bind_ok (Action.exec_log _ _ _ s), exec_onTransport,
    show (Bus.write address data : Action DebugError (Recorded τ) Unit) =
      Recorded.enter (.write address data) (fun _ => .done) (Bus.write address data) from rfl, entered]
  rfl

omit [ReadsBack τ] in
/-- A read of the bus, with its entry in the record. -/
theorem exec_readDmi_recorded (address : BusAddress) (s : Session (Recorded τ)) :
    (readDmi address).exec s =
      (((Bus.read address).exec s.transport.bus).1, s.withTransport
        ⟨Access.after s.transport.bus (.read address), s.transport.record ++
          [⟨.read address, .of .value ((Bus.read address).exec s.transport.bus).1⟩]⟩) := by
  have entered := Recorded.exec_enter (.read address) .value (Bus.read address) s.transport
  rw [readDmi, Action.exec_bind, exec_onTransport,
    show (Bus.read address : Action DebugError (Recorded τ) Word) =
      Recorded.enter (.read address) .value (Bus.read address) from rfl, entered]
  dsimp only
  cases ((Bus.read address).exec s.transport.bus).1 <;> rfl

/-- The session with its bus under record from now on. -/
def recorded (s : Session τ) : Session (Recorded τ) where
  transport := ⟨s.transport, []⟩
  config := s.config
  tap := s.tap
  xlen := s.xlen
  width := s.width
  progbufCapacity := s.progbufCapacity
  dcsrShadow := s.dcsrShadow
  timer := s.timer

omit [Transport τ] [ReadsBack τ] in
theorem alike_recorded (s : Session τ) : Alike Recorded.Over s.recorded s :=
  ⟨rfl, rfl, rfl, rfl, rfl, rfl, rfl, rfl⟩

/-- **A record makes no difference** to any operation. -/
theorem simulates_perform_recorded (op : Operation) :
    Simulates (Alike Recorded.Over) (op.perform (τ := Recorded τ)) (op.perform (τ := τ)) := by
  by_cases keeps : op.KeepsConnection
  · exact Operation.simulates_perform refines_recorded.agree keeps
  · cases op with
    | connect => exact Operation.simulates_done (simulates_onTransport (Recorded.simulates_enter _ _ _))
    | disconnect =>
      exact Operation.simulates_done (simulates_onTransport (Recorded.simulates_enter _ _ _))
    | _ => exact absurd ⟨nofun, nofun⟩ keeps

theorem simulates_performEach_recorded (ops : List Operation) :
    Simulates (Alike Recorded.Over) (Operation.performEach (σ := Recorded τ) ops)
      (Operation.performEach (σ := τ) ops) :=
  Operation.simulates_performEach_of fun op _ => simulates_perform_recorded op

end Session

end

end HartDebug
