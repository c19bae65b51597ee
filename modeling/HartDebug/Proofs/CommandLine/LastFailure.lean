import HartDebug.Proofs.CommandLine.Course

/-!
# Which failure a run reports

Once the main operations of a subcommand have failed, taking back what was prepared for them and closing the
session are still to come, and each of the two can fail as well.  A run has one failure to report.

* `lastReport` — a report, or the one of a later step;
* `Course.ReportsLast` — the failure of the last step to fail is the one shown;
* `failure_of_failed_operations` — **a run shows the failure of its subcommand only if all that follows
  succeeds**.
-/

namespace HartDebug.Program

variable {σ τ : Type}

/-- The report that is left after a further step: its own if it has failed, or else the earlier one. -/
def lastReport (earlier : Report) : Except Report Unit → Report
  | .ok () => earlier
  | .error later => later

/-- A failure that is put off until something else is done is lost if that fails. -/
theorem exec_puttingOff (x : Action Report τ Unit) (e : Report) (s : τ) :
    (do x; Action.ofExcept (.error e) : Action Report τ Unit).exec s =
      (.error (lastReport e (x.exec s).1), (x.exec s).2) := by
  rw [Action.exec_bind]
  rcases x.exec s with ⟨_ | _, t⟩ <;> rfl

/-- A subcommand whose main operations have failed fails, with their failure or with that of its own cleaning
up. -/
theorem exec_run_of_failed [Transport τ] {c : Subcommand} {e : Report} {s prepared failed : Session τ}
    (prepares : c.prepare.exec s = (.ok (), prepared))
    (fails : c.mainPart.exec prepared = (.error e, failed)) :
    c.run.exec s = (.error (lastReport e (c.cleanUp.exec failed).1), (c.cleanUp.exec failed).2) := by
  rw [Subcommand.exec_run, Action.exec_bind_ok prepares, Action.exec_bind_ok (Action.exec_attempt _ _), fails]
  exact exec_puttingOff c.cleanUp e failed

/-- A session that is closed after a failure ends with that failure or with the one of closing it. -/
theorem exec_runAndClose_of_failed [Transport τ] {c : Subcommand} {e : Report} {s failed : Session τ}
    (fails : c.run.exec s = (.error e, failed)) :
    (runAndClose c).exec s =
      (.error (lastReport e ((Report.of Session.close).exec failed).1),
        ((Report.of Session.close).exec failed).2) := by
  rw [runAndClose, Action.exec_bind_ok (Action.exec_attempt c.run s), fails]
  exact exec_puttingOff _ e failed

/-- Where the main operations of a subcommand fail in a course, what was prepared for them is taken back and
the session is closed, and the failure shown is that of the last of the three to fail. -/
def Course.ReportsLast [Transport τ] (p : Course τ) (c : Subcommand) (shown : Option Failure) : Prop :=
  ∀ (e : Report) (ready prepared failed : Session τ),
    p.begin.exec p.session = (.ok (), ready) → c.prepare.exec ready = (.ok (), prepared) →
    c.mainPart.exec prepared = (.error e, failed) →
    let cleaned := c.cleanUp.exec failed
    let closed := (Report.of Session.close).exec cleaned.2
    shown = some (.report (lastReport (lastReport e cleaned.1) closed.1))

theorem Course.reportsLast [Transport τ] (p : Course τ) (c : Subcommand) :
    p.ReportsLast c (failureOf (p.run c).1) := by
  intro e ready prepared failed readied prepares fails
  have ran := exec_runAndClose_of_failed (exec_run_of_failed prepares fails)
  rw [Course.run_of_ready readied, Action.exec_bind_error ran]
  rfl

/-- A completion does nothing that could fail. -/
theorem Course.reportsLast_complete [Transport τ] (p : Course τ) (shell : Shell) (shown : Option Failure) :
    p.ReportsLast (.complete shell) shown := by
  intro e ready prepared failed _ _ fails
  cases congrArg Prod.fst fails

variable [ByteStream σ] {arguments : List String} {i : Invocation}

/-- **A run shows the failure of its subcommand only if all that follows succeeds**: whatever the transport
meets, the failure of taking back a request to halt on reset takes the place of the subcommand's own, and the
failure of closing the session takes the place of both. -/
theorem failure_of_failed_operations (S : Surroundings σ)
    (taken : Invocation.ofArguments arguments = .ok i) :
    match i.transport with
    | .console => (consoleCourse S i).ReportsLast i.subcommand (run S arguments).failure
    | .tcl => (tclCourse S i).ReportsLast i.subcommand (run S arguments).failure
    | .svf => (vectorCourse S i).ReportsLast i.subcommand (run S arguments).failure := by
  by_cases complete : ∃ shell, i.subcommand = .complete shell
  · obtain ⟨shell, same⟩ := complete
    rw [same]
    split
    · exact Course.reportsLast_complete _ _ _
    · exact Course.reportsLast_complete _ _ _
    · exact Course.reportsLast_complete _ _ _
  · have begun : ∀ shell, i.subcommand ≠ .complete shell := fun shell same => complete ⟨shell, same⟩
    split
    · next kind =>
      rw [(run_console taken begun kind).1]
      exact Course.reportsLast _ _
    · next kind =>
      rw [(run_tcl taken begun kind).1]
      exact Course.reportsLast _ _
    · next kind =>
      rw [(run_vectors taken begun kind).1]
      exact Course.reportsLast _ _

/-- Surroundings without an adapter and without a directory to write to. -/
def outOfReach : Surroundings ScriptedStream where
  dial _ := .error (.reported "Connection refused (os error 111)")
  clock := .recorded []
  disk := { refuses := fun _ => some (.reported "No such file or directory (os error 2)") }

/-- Vectors of the port's identification are asked for, in a file of a directory that is not there. -/
def unwritableIdcode : Invocation where
  transport := .svf
  choices := { vectorOutput := some "/nonexistent/x.svf", width := some .w64 }
  subcommand := .idcode none

/-- The identification cannot be read into vectors, and only the file that cannot be written is heard of. -/
theorem failure_of_failed_operations_behind_closing :
    (∀ s : Session VectorEmitter,
      unwritableIdcode.subcommand.mainPart.exec s = (.error ⟨[], .unsupported .idcode⟩, s)) ∧
    (run outOfReach ["-t", "svf", "-w", "64", "-o", "/nonexistent/x.svf", "idcode"]).failure =
      some (.report ⟨[], .transport (.writeVectors "/nonexistent/x.svf")
        (.reported "No such file or directory (os error 2)")⟩) := by
  have taken : Invocation.ofArguments
      ["-t", "svf", "-w", "64", "-o", "/nonexistent/x.svf", "idcode"] = .ok unwritableIdcode := rfl
  have unreadable (s : Session VectorEmitter) :
      unwritableIdcode.subcommand.mainPart.exec s = (.error ⟨[], .unsupported .idcode⟩, s) := rfl
  let course := vectorCourse outOfReach unwritableIdcode
  let ready := (course.begin.exec course.session).2
  refine ⟨unreadable, ?_⟩
  exact failure_of_failed_operations outOfReach taken _ ready ready ready rfl rfl (unreadable ready)

end HartDebug.Program
