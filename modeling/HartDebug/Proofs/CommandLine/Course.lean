import HartDebug.CommandLine.Program

/-!
# The course of the program

Whatever the transport, the program opens a session, gets it ready for the subcommand, runs the subcommand,
closes the session, and is done.  A subcommand in turn has its main operations; the one that resets a hart and
halts it prepares that, and takes it back afterwards.

* `Subcommand.prepare`, `Subcommand.mainPart`, `Subcommand.cleanUp` — what a subcommand is made of;
* `Program.Course` — a session with what is done before the subcommand and in the end;
* `Course.run_of_ready`, `Course.run_of_unready` — **a course up to its subcommand, and past it**;
* `consoleCourse`, `tclCourse`, `vectorCourse` — the course on each transport;
* `run_console`, `run_tcl`, `run_vectors` — **a run of the program is such a course**.
-/

namespace HartDebug

variable {σ τ : Type}

/-! ## Subcommands -/

namespace Subcommand

/-- Where nothing is done before and after it, an action that is attempted is as it would be. -/
theorem exec_attempted (x : Action Report τ Unit) (s : τ) :
    (do
      pure ()
      let outcome ← Action.attempt x
      pure ()
      Action.ofExcept outcome : Action Report τ Unit).exec s = x.exec s := rfl

variable [Transport τ]

/-- What a subcommand does before its main operations. -/
def prepare : Subcommand → Action Report (Session τ) Unit
  | .reset true => Report.of Session.setHaltOnReset
  | _ => pure ()

/-- The main operations of a subcommand. -/
def mainPart : Subcommand → Action Report (Session τ) Unit
  | .reset _ => Report.of Session.resetHart
  | c => c.run

/-- What a subcommand does after its main operations, also when they have failed. -/
def cleanUp : Subcommand → Action Report (Session τ) Unit
  | .reset true => Report.of Session.clearHaltOnReset
  | _ => pure ()

/-- A subcommand is its main operations, with what it does before and after them. -/
theorem exec_run (c : Subcommand) (s : Session τ) :
    c.run.exec s = (do
      c.prepare
      let outcome ← Action.attempt c.mainPart
      c.cleanUp
      Action.ofExcept outcome : Action Report (Session τ) Unit).exec s := by
  cases c with
  | reset halting =>
    cases halting with
    | false => exact (exec_attempted (Report.of Session.resetHart) s).symm
    | true => rfl
  | _ => exact (exec_attempted _ s).symm

end Subcommand

/-! ## Courses -/

namespace Program

/-- The session is closed after the subcommand, however that has ended, and what closing it reports comes
first. -/
theorem exec_runAndClose [Transport τ] (c : Subcommand) (s : Session τ) :
    (runAndClose c).exec s =
      match (Report.of Session.close).exec (c.run.exec s).2 with
      | (.error e, t) => (.error e, t)
      | (.ok (), t) => ((c.run.exec s).1, t) := by
  rw [runAndClose, Action.exec_bind_ok (Action.exec_attempt c.run s), Action.exec_bind]
  rcases (Report.of Session.close).exec (c.run.exec s).2 with ⟨_ | _, t⟩ <;> rfl

/-- However the subcommand and the closing end, the session is left as the closing leaves it. -/
theorem state_runAndClose [Transport τ] (c : Subcommand) (s : Session τ) :
    ((runAndClose c).exec s).2 = (Session.close.exec (c.run.exec s).2).2 := by
  rw [exec_runAndClose, Report.of, Action.exec_mapError]
  rcases Session.close.exec (c.run.exec s).2 with ⟨_ | _, t⟩ <;> rfl

/-- The failure that an outcome is shown as. -/
def failureOf : Except Report Unit → Option Failure
  | .ok () => none
  | .error report => some (.report report)

/-- A session that has not begun, with what the program does between its beginning and the subcommand, and
what it does once the session has been closed. -/
structure Course (τ : Type) where
  session : Session τ
  ready : Action Report (Session τ) Unit
  finish : Action Report (Session τ) Unit := pure ()

namespace Course

variable [Transport τ]

/-- What is done up to the subcommand. -/
def begin (p : Course τ) : Action Report (Session τ) Unit := do
  Report.of Session.start
  p.ready

/-- The whole course of a subcommand. -/
def run (p : Course τ) (c : Subcommand) : Except Report Unit × Session τ :=
  (do
    Report.of Session.start
    p.ready
    runAndClose c
    p.finish : Action Report (Session τ) Unit).exec p.session

variable {p : Course τ} {s : Session τ}

/-- A session that has begun stands over a transport that has been connected. -/
theorem connect_of_start {s' : Session τ} (started : (Report.of Session.start).exec s = (.ok (), s')) :
    Bus.connect.exec s.transport = (.ok (), s'.transport) := by
  obtain ⟨_, s₁, connected, logged⟩ := Action.exec_bind_eq_ok (Action.exec_mapError_eq_ok started)
  obtain ⟨outcome, rfl⟩ := Prod.mk.inj connected
  cases logged
  exact Prod.ext outcome rfl

/-- A course that gets to its subcommand ends with it. -/
theorem run_of_ready (readied : p.begin.exec p.session = (.ok (), s)) (c : Subcommand) :
    p.run c = (do runAndClose c; p.finish : Action Report (Session τ) Unit).exec s := by
  obtain ⟨_, s', started, ready⟩ := Action.exec_bind_eq_ok readied
  rw [run, Action.exec_bind_ok started, Action.exec_bind_ok ready]

/-- A course that does not get to its subcommand ends where it has failed. -/
theorem run_of_unready {e : Report} (failed : p.begin.exec p.session = (.error e, s)) (c : Subcommand) :
    p.run c = (.error e, s) := by
  rw [begin, Action.exec_bind] at failed
  rw [run, Action.exec_bind]
  generalize (Report.of Session.start).exec p.session = started at failed ⊢
  obtain ⟨_ | _, s'⟩ := started
  · exact failed
  · exact Action.exec_bind_error failed _

end Course

/-! ## The transports -/

/-- The course over the adapter's console. -/
def consoleCourse [ByteStream σ] (S : Surroundings σ) (i : Invocation) : Course (Console σ) where
  session := .fresh (Console.forConfig (configOf i) S.dial) (configOf i) { clock := S.clock }
  ready := do
    Report.of Session.interrogate
    Report.of Session.activateDm

/-- The course over the adapter's Tcl server. -/
def tclCourse [ByteStream σ] (S : Surroundings σ) (i : Invocation) : Course (TclServer σ) where
  session := .fresh (TclServer.forConfig (configOf i) S.dial) (configOf i) { clock := S.clock }
  ready := Report.of Session.activateDm

/-- The course of a recording. -/
def vectorCourse (S : Surroundings σ) (i : Invocation) : Course VectorEmitter where
  session := .fresh (VectorEmitter.forConfig (configOf i) S.disk) (configOf i) { clock := S.clock }
  ready := do
    Report.of Session.resetTap
    Report.of Session.activateDm
  finish :=
    match (configOf i).vectorOutput with
    | some path => Action.log .info .program s!"Vectors written to {path}"
    | none => do Action.say (.print (← get).transport.artifact)

variable [ByteStream σ] {S : Surroundings σ} {arguments : List String} {i : Invocation}

/-- A command line that is taken is carried out; only completions are made without a session. -/
theorem run_eq_carryOut (S : Surroundings σ) (taken : Invocation.ofArguments arguments = .ok i)
    (begun : ∀ shell, i.subcommand ≠ .complete shell) : run S arguments = carryOut S i := by
  rw [run, taken]
  dsimp only
  split
  · next shell complete => exact absurd complete (begun shell)
  · rfl

/-- **A run over the console** is its course. -/
theorem run_console (taken : Invocation.ofArguments arguments = .ok i)
    (begun : ∀ shell, i.subcommand ≠ .complete shell) (kind : i.transport = .console) :
    let ended := (consoleCourse S i).run i.subcommand
    (run S arguments).failure = failureOf ended.1 ∧
      (run S arguments).sent = sentOver ended.2.transport.link := by
  have same : (consoleCourse S i).run i.subcommand =
      (onConsole i.subcommand).exec (consoleCourse S i).session := by
    refine Action.exec_bind_congr _ fun _ s => ?_
    rw [consoleCourse, Action.exec_bind_assoc]
    refine Action.exec_bind_congr _ fun _ s => Action.exec_bind_congr _ fun _ s => ?_
    exact Action.exec_bind_pure _ s
  rw [run_eq_carryOut S taken begun, carryOut, kind, same]
  exact ⟨rfl, rfl⟩

/-- **A run over the Tcl server** is its course. -/
theorem run_tcl (taken : Invocation.ofArguments arguments = .ok i)
    (begun : ∀ shell, i.subcommand ≠ .complete shell) (kind : i.transport = .tcl) :
    let ended := (tclCourse S i).run i.subcommand
    (run S arguments).failure = failureOf ended.1 ∧
      (run S arguments).sent = sentOver ended.2.transport.link := by
  have same : (tclCourse S i).run i.subcommand =
      (onTcl i.subcommand).exec (tclCourse S i).session := by
    refine Action.exec_bind_congr _ fun _ s => Action.exec_bind_congr _ fun _ s => ?_
    exact Action.exec_bind_pure _ s
  rw [run_eq_carryOut S taken begun, carryOut, kind, same]
  exact ⟨rfl, rfl⟩

/-- **A recording** is its course. -/
theorem run_vectors (taken : Invocation.ofArguments arguments = .ok i)
    (begun : ∀ shell, i.subcommand ≠ .complete shell) (kind : i.transport = .svf) :
    let ended := (vectorCourse S i).run i.subcommand
    (run S arguments).failure = failureOf ended.1 ∧
      (run S arguments).files = ended.2.transport.disk.written := by
  have same : (vectorCourse S i).run i.subcommand =
      (onVectors i.subcommand).exec (vectorCourse S i).session := by
    have readied : (vectorCourse S i).run i.subcommand =
        (do
          Report.of Session.start
          Report.of Session.resetTap
          Report.of Session.activateDm
          runAndClose i.subcommand
          (vectorCourse S i).finish : Action Report (Session VectorEmitter) Unit).exec
          (vectorCourse S i).session :=
      Action.exec_bind_congr _ fun _ s => Action.exec_bind_assoc _ _ _ s
    -- The warning about the width is said before the course, and leaves no trace in it.
    rw [onVectors, Action.exec_bind_ok (Action.exec_get _), readied]
    dsimp only
    split
    · rw [Action.exec_bind_ok (Action.exec_log _ _ _ _)]
      rfl
    · rfl
  rw [run_eq_carryOut S taken begun, carryOut, kind, same]
  exact ⟨rfl, rfl⟩

end Program

end HartDebug
