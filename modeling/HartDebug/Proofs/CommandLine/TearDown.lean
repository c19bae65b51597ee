import HartDebug.Proofs.CommandLine.Course
import HartDebug.Proofs.Wire.Exchange
import HartDebug.Proofs.Wire.OpenLink

/-!
# How sessions end

A session that has begun is to be closed again before the program ends: over a link the adapter is told so and
the connection hung up, and a recording is written to its file.  The program closes a session behind its
subcommand, whatever becomes of that, but not where the session does not get as far as the subcommand.

* `Subcommand.moves_run` — **a subcommand opens and closes nothing**, nor does it write a file;
* `EndsOverLink` — a run over a link hangs up once, or not at all;
* `EndsRecording` — a recording is finished once;
* `session_torn_down_once_ready` — **each run ends so**, on every transport and with every subcommand.
-/

namespace HartDebug

open Action (Moves IsTravel)
open Session (Along moves_perform)

variable {σ τ α : Type}

/-! ## Subcommands -/

namespace Subcommand

variable [Transport τ] {R : τ → τ → Prop} (h : Transport.Stays R)

include h

/-- An operation stays, in whatever terms its failure is reported. -/
theorem moves_operation (op : Operation) {x : Action DebugError (Session τ) α} {f : α → Operation.Reply}
    (performs : op.perform = do pure (f (← x))) (keeps : op.KeepsConnection)
    {report : DebugError → Report} : Moves (Along R) (x.mapError report) := by
  have moved := moves_perform h keeps
  rw [performs] at moved
  exact moved.of_bind_pure.mapError _

theorem moves_runStatus : Moves (Along R) (runStatus (τ := τ)) := by
  have travel := h.along
  have printed (text : String) : Moves (Along R) (Action.printLine text : Action Report (Session τ) Unit) :=
    .say travel _
  refine (moves_operation h .hartStatus rfl ⟨nofun, nofun⟩).bind travel fun status => ?_
  exact (printed _).bind travel fun _ => (printed _).bind travel fun _ => (printed _).bind travel fun _ =>
    (printed _).bind travel fun _ => printed _

theorem moves_runReset (halting : Bool) : Moves (Along R) (runReset (τ := τ) halting) := by
  have travel := h.along
  have reset : Moves (Along R) (Report.of (Session.resetHart (τ := τ))) :=
    moves_operation h .resetHart rfl ⟨nofun, nofun⟩
  cases halting with
  | false => exact (Moves.attempt reset).bind travel fun _ => .ofExcept travel _
  | true =>
    refine (moves_operation h .setHaltOnReset rfl ⟨nofun, nofun⟩).bind travel fun _ => ?_
    refine (Moves.attempt reset).bind travel fun _ => ?_
    exact (moves_operation h .clearHaltOnReset rfl ⟨nofun, nofun⟩).bind travel fun _ => .ofExcept travel _

theorem moves_runDump (float json : Bool) : Moves (Along R) (runDump (τ := τ) float json) := by
  have travel := h.along
  refine (moves_operation h (.dumpRegisters _ none) rfl ⟨nofun, nofun⟩).bind travel fun dump => ?_
  split
  · exact .say travel _
  · exact (Moves.get travel).bind travel fun s => .forM travel fun entry _ => .say travel _

theorem moves_runExec (discover : Bool) (instructions : List Word) :
    Moves (Along R) (runExec (τ := τ) discover instructions) := by
  have travel := h.along
  have carried : Moves (Along R) (do
      Report.of (Session.loadProgram (τ := τ) instructions)
      Report.of Session.executeProgram) :=
    (moves_operation h (.loadProgram instructions) rfl ⟨nofun, nofun⟩).bind travel fun _ =>
      moves_operation h .executeProgram rfl ⟨nofun, nofun⟩
  cases discover with
  | false => exact carried
  | true =>
    exact (moves_operation h .discoverProgbufSize rfl ⟨nofun, nofun⟩).bind travel fun _ =>
      (Moves.log travel _ _ _).bind travel fun _ => carried

theorem moves_runDiagnose : Moves (Along R) (runDiagnose (τ := τ)) := by
  have travel := h.along
  refine (moves_operation h .diagnose rfl ⟨nofun, nofun⟩).bind travel fun fault => ?_
  cases fault with
  | none => exact .log travel _ _ _
  | some fault => exact .log travel _ _ _

theorem moves_runIdcode (expected : Option Word) : Moves (Along R) (runIdcode (τ := τ) expected) := by
  have travel := h.along
  cases expected with
  | none => exact (moves_operation h .readIdcode rfl ⟨nofun, nofun⟩).bind travel fun _ => .say travel _
  | some expected => exact moves_operation h (.expectIdcode expected) rfl ⟨nofun, nofun⟩

/-- **A subcommand stays** where every access stays, however it ends. -/
theorem moves_run (c : Subcommand) : Moves (Along R) (c.run (τ := τ)) := by
  have travel := h.along
  cases c with
  | status => exact moves_runStatus h
  | halt => exact moves_operation h .halt rfl ⟨nofun, nofun⟩
  | resume => exact moves_operation h .resume rfl ⟨nofun, nofun⟩
  | step => exact moves_operation h .step rfl ⟨nofun, nofun⟩
  | reset halting => exact moves_runReset h halting
  | read register =>
    exact (moves_operation h (.readRegister register none) rfl ⟨nofun, nofun⟩).bind travel fun _ => .say travel _
  | write register value =>
    exact (moves_operation h (.writeRegister register value none) rfl ⟨nofun, nofun⟩).bind travel fun _ =>
      .log travel _ _ _
  | expect register value => exact moves_operation h (.expectRegister register value none) rfl ⟨nofun, nofun⟩
  | dump float json => exact moves_runDump h float json
  | exec discover instructions => exact moves_runExec h discover instructions
  | diagnose => exact moves_runDiagnose h
  | dmReset => exact moves_operation h .resetDm rfl ⟨nofun, nofun⟩
  | dtmReset hard =>
    cases hard with
    | false => exact moves_operation h .resetStickyError rfl ⟨nofun, nofun⟩
    | true => exact moves_operation h .hardResetDtm rfl ⟨nofun, nofun⟩
  | idcode expected => exact moves_runIdcode h expected
  | complete shell => exact .pure travel ()

end Subcommand

/-! ## Over a link -/

/-- Asking about the target is a matter of two commands, and of a name that is taken over between them. -/
theorem Session.moves_interrogate_of [ByteStream σ] {R : Console σ → Console σ → Prop} (travel : IsTravel R)
    (listed : Moves R (Console.executeLines (σ := σ) "scan_chain"))
    (described : Moves R (Console.executeLines (σ := σ) "riscv info"))
    (named : ∀ name, Moves R (Console.setTapName (σ := σ) name)) :
    Moves (Along R) (Session.interrogate (σ := σ)) := by
  have along := isTravel_along travel
  refine (moves_onTransport listed).bind along fun listing => Moves.perhapsLog along ?_ _ _ _
  split
  · exact moves_failLogged along _ _
  · refine (Moves.log along _ _ _).bind along fun _ =>
      (moves_onTransport (named _)).bind along fun _ => ?_
    refine (moves_of_unmoved travel fun _ => rfl).bind along fun _ => ?_
    refine (moves_onTransport described).bind along fun description => ?_
    split
    · exact moves_failLogged along _ _
    · exact (Moves.log along _ _ _).bind along fun _ => moves_adoptXlen travel _

/-- Asking about the target keeps the connection. -/
theorem Session.moves_interrogate [ByteStream σ] :
    Moves (Along Console.Keeps) (Session.interrogate (σ := σ)) :=
  moves_interrogate_of Console.travel_keeps (Console.moves_executeLines _) (Console.moves_executeLines _)
    fun _ => Console.moves_onLink (.modify fun _ => ⟨rfl, rfl⟩)

namespace Program

variable [ByteStream σ]

/-- How a run over a link ends: with a single farewell on a single connection if the session gets ready for
its subcommand, and without one if it does not. -/
structure EndsOverLink [Transport τ] (link : τ → Link σ) (farewell : List Byte) (p : Course τ)
    (c : Subcommand) (ending : Ending) : Prop where
  /-- However the subcommand ends, the connection that it leaves is then hung up, the only one to be. -/
  hung_up : ∀ ready, p.begin.exec p.session = (.ok (), ready) →
    ∃ connection, (link (c.run.exec ready).2.transport).connection = some connection ∧
      (link (p.run c).2.transport).connection = none ∧
      (link (p.run c).2.transport).closed = [((Connection.send farewell).exec connection).2] ∧
      ending.sent = some ((Connection.send farewell).exec connection).2.sent
  /-- A session that has begun and does not get ready is left as it is. -/
  left_open : ∀ opened unready report, (Report.of Session.start).exec p.session = (.ok (), opened) →
    p.ready.exec opened = (.error report, unready) →
    ∃ connection, (link unready.transport).connection = some connection ∧
      (link (p.run c).2.transport).connection = some connection ∧
      (link (p.run c).2.transport).closed = [] ∧
      ending.failure = some (.report report) ∧ ending.sent = some connection.sent

theorem Course.endsOverLink [Transport τ] {link : τ → Link σ} {farewell : List Byte}
    (linked : OverLink link farewell) {p : Course τ} (fresh : (link p.session.transport).closed = [])
    (readying : Moves (Along fun t t' => (link t).Keeps (link t')) p.ready) (plain : p.finish = pure ())
    {c : Subcommand} {ending : Ending} (failure : ending.failure = failureOf (p.run c).1)
    (sent : ending.sent = sentOver (link (p.run c).2.transport)) :
    EndsOverLink link farewell p c ending where
  hung_up := by
    intro ready readied
    obtain ⟨_, opened, started, finished⟩ := Action.exec_bind_eq_ok readied
    obtain ⟨open_, closed⟩ := linked.connect (Course.connect_of_start started)
    have kept : (link opened.transport).Keeps (link (c.run.exec ready).2.transport) :=
      Link.isTravel_keeps.trans (readying.of_exec finished) (Subcommand.moves_run linked.stays c ready)
    obtain ⟨connection, here⟩ := Option.isSome_iff_exists.mp (kept.connected.trans open_)
    have last : link (p.run c).2.transport =
        ((Link.hangUp farewell).exec (link (c.run.exec ready).2.transport)).2 := by
      rw [Course.run_of_ready readied, plain, Action.exec_bind_pure, state_runAndClose]
      exact linked.disconnect _
    rw [Link.exec_hangUp here, kept.closed, closed, fresh] at last
    refine ⟨connection, here, by rw [last], by rw [last]; rfl, ?_⟩
    rw [sent, last]
    simp [sentOver, Link.sent]
  left_open := by
    intro opened unready report started failed
    obtain ⟨open_, closed⟩ := linked.connect (Course.connect_of_start started)
    have kept : (link opened.transport).Keeps (link unready.transport) := readying.of_exec failed
    obtain ⟨connection, here⟩ := Option.isSome_iff_exists.mp (kept.connected.trans open_)
    have ended : p.run c = (.error report, unready) :=
      Course.run_of_unready (by rw [Course.begin, Action.exec_bind_ok started, failed]) c
    have nothing : (link unready.transport).closed = [] := by rw [kept.closed, closed, fresh]
    rw [ended] at failure sent ⊢
    refine ⟨connection, here, here, nothing, failure, ?_⟩
    rw [sent]
    simp [sentOver, Link.sent, here, nothing]

end Program

/-! ## Over a recording -/

namespace VectorEmitter

/-- Nothing was written to a file, and the recording still goes where it was to go. -/
structure Keeps (e e' : VectorEmitter) : Prop where
  disk : e'.disk = e.disk
  output : e'.output = e.output

theorem travel_keeps : IsTravel Keeps where
  refl _ := ⟨rfl, rfl⟩
  trans first second := ⟨second.disk.trans first.disk, second.output.trans first.output⟩

theorem moves_push (d : Directive) : Moves Keeps (push d) :=
  .modify fun _ => ⟨rfl, rfl⟩

theorem moves_select (i : Instruction) : Moves Keeps (select i) := by
  refine (Moves.get travel_keeps).bind travel_keeps fun e => ?_
  split
  · exact (moves_push _).bind travel_keeps fun _ => .modify fun _ => ⟨rfl, rfl⟩
  · exact .pure travel_keeps _

/-- **Recording writes no file**: only closing the recording does. -/
theorem stays : Transport.Stays Keeps where
  travel := travel_keeps
  write _ _ := (moves_select _).bind travel_keeps fun _ => moves_push _
  read _ := .throw travel_keeps _
  writeDtmcs _ := (moves_select _).bind travel_keeps fun _ => moves_push _
  readDtmcs := .throw travel_keeps _
  readIdcode := .throw travel_keeps _
  resetTap := (moves_push _).bind travel_keeps fun _ => (moves_push _).bind travel_keeps fun _ =>
    .modify fun _ => ⟨rfl, rfl⟩
  expect _ _ _ := (moves_select _).bind travel_keeps fun _ => (moves_push _).bind travel_keeps fun _ =>
    (moves_push _).bind travel_keeps fun _ => .pure travel_keeps _
  expectIdcode _ := (moves_select _).bind travel_keeps fun _ => (moves_push _).bind travel_keeps fun _ =>
    .pure travel_keeps _
  idle _ := moves_push _

end VectorEmitter

namespace Program

/-- How a recording ends: whatever it meets, it gets ready for its subcommand, and what the subcommand leaves
of the recording is finished once, with nothing written to a file before. -/
def EndsRecording (S : Surroundings σ) (i : Invocation) (ending : Ending) : Prop :=
  ∃ ready, (vectorCourse S i).begin.exec (vectorCourse S i).session = (.ok (), ready) ∧
    let recorded := (i.subcommand.run.exec ready).2.transport
    recorded.disk = S.disk ∧ recorded.output = i.choices.vectorOutput ∧
      ending.files = (VectorEmitter.finish.exec recorded).2.disk.written

/-- A recording always gets ready: nothing is read back for it. -/
theorem begin_vectorCourse (S : Surroundings σ) (i : Invocation) :
    ∃ ready, (vectorCourse S i).begin.exec (vectorCourse S i).session = (.ok (), ready) ∧
      ready.transport.disk = S.disk ∧ ready.transport.output = i.choices.vectorOutput :=
  ⟨_, rfl, rfl, rfl⟩

/-- What is said about the artifact leaves the recording as it is. -/
theorem state_finish_vectorCourse (S : Surroundings σ) (i : Invocation) (s : Session VectorEmitter) :
    ((vectorCourse S i).finish.exec s).2 = s := by
  rw [vectorCourse]
  dsimp only
  split <;> rfl

theorem endsRecording (S : Surroundings σ) (i : Invocation) {ending : Ending}
    (files : ending.files = ((vectorCourse S i).run i.subcommand).2.transport.disk.written) :
    EndsRecording S i ending := by
  obtain ⟨ready, readied, disk, output⟩ := begin_vectorCourse S i
  have kept := Subcommand.moves_run VectorEmitter.stays i.subcommand ready
  refine ⟨ready, readied, kept.disk.trans disk, kept.output.trans output, ?_⟩
  have last : ((vectorCourse S i).run i.subcommand).2 =
      ((runAndClose i.subcommand).exec ready).2 := by
    rw [Course.run_of_ready readied, Action.exec_bind]
    rcases (runAndClose i.subcommand).exec ready with ⟨_ | _, s⟩
    · rfl
    · exact state_finish_vectorCourse S i s
  rw [files, last, state_runAndClose]
  rfl

/-! ## Runs -/

variable [ByteStream σ] {arguments : List String} {i : Invocation}

/-- **A session is torn down once, if it gets ready for its subcommand**, however the subcommand ends.  Asking
about the target and switching the debug module on come before that, and a session in which they fail is left
open. -/
theorem session_torn_down_once_ready (S : Surroundings σ) (taken : Invocation.ofArguments arguments = .ok i)
    (begun : ∀ shell, i.subcommand ≠ .complete shell) :
    match i.transport with
    | .console =>
      EndsOverLink Console.link (Utf8.bytes "exit\n") (consoleCourse S i) i.subcommand (run S arguments)
    | .tcl =>
      EndsOverLink TclServer.link (Utf8.bytes "exit" ++ [TclServer.endMark]) (tclCourse S i) i.subcommand
        (run S arguments)
    | .svf => EndsRecording S i (run S arguments) := by
  split
  · next kind =>
    obtain ⟨failure, sent⟩ := run_console (S := S) taken begun kind
    have travel := (Console.stays (σ := σ)).along
    have readying : Moves (Along Console.Keeps) (consoleCourse S i).ready :=
      (Moves.mapError _ (Session.moves_interrogate (σ := σ))).bind travel fun _ =>
        Subcommand.moves_operation Console.stays .activateDm rfl ⟨nofun, nofun⟩
    exact Course.endsOverLink Console.overLink rfl readying rfl failure sent
  · next kind =>
    obtain ⟨failure, sent⟩ := run_tcl (S := S) taken begun kind
    have readying : Moves (Along TclServer.Keeps) (tclCourse S i).ready :=
      Subcommand.moves_operation TclServer.stays .activateDm rfl ⟨nofun, nofun⟩
    exact Course.endsOverLink TclServer.overLink rfl readying rfl failure sent
  · next kind =>
    exact endsRecording S i (run_vectors taken begun kind).2

end Program

/-! ## An adapter that is gone -/

/-- A stream that has ended on the other side still takes what is sent. -/
theorem ScriptedStream.exec_send_of_ended (octets : List Byte) :
    (Connection.send octets).exec ({ stream := {} } : Connection ScriptedStream) =
      (.ok (), { stream := {}, sent := octets }) := by
  obtain ⟨_, taken, rfl⟩ := Connection.exec_sendAll_of_taken
    (exists_offer_same (s := {}) rfl nofun) octets (c := { stream := {} }) rfl
  exact (Action.exec_bind_ok (Action.exec_log _ _ _ _) _).trans taken

/-- A command sent there gets no reply. -/
theorem TclServer.exec_send_of_ended {t : TclServer ScriptedStream}
    (opened : t.link.connection = some { stream := {} }) (command : String) :
    (send command).exec t =
      (.error (.transport .receive .ended),
        { t with link := { t.link with
          connection := some { stream := {}, sent := Utf8.bytes command ++ [endMark] } } }) := by
  let after : Connection ScriptedStream := { stream := {}, sent := Utf8.bytes command ++ [endMark] }
  have read : (Connection.readUntil [endMark] false).exec after =
      (.error (.transport .receive .ended), after) :=
    Action.exec_bind_error (Connection.exec_readFrame _ _ _ _) _
  have exchanged : (do
      Connection.send (Utf8.bytes command ++ [endMark])
      let reply ← Connection.readUntil [endMark] false
      pure (Text.trimEnd (Utf8.text reply)) : Action DebugError (Connection ScriptedStream) String).exec
        { stream := {} } = (.error (.transport .receive .ended), after) := by
    rw [Action.exec_bind_ok (ScriptedStream.exec_send_of_ended _)]
    exact Action.exec_bind_error read _
  rw [send, Action.exec_bind_ok (Action.exec_log _ _ _ _), onLink, Action.exec_onPart, Link.exec_use opened,
    exchanged]

namespace Program

/-- An adapter that takes a connection and ends it at once. -/
def goneAdapter : Surroundings ScriptedStream where
  dial _ := .ok {}
  clock := .recorded []
  disk := {}

/-- The status of a hart behind it. -/
def statusOverTcl : Invocation where
  transport := .tcl
  choices := {}
  subcommand := .status

/-- Switching the debug module on gets no reply, and the connection is left as it is. -/
theorem session_torn_down_once_ready_of_gone :
    ((tclCourse goneAdapter statusOverTcl).run .status).2.transport.link.connection.isSome = true ∧
      ((tclCourse goneAdapter statusOverTcl).run .status).2.transport.link.closed = [] ∧
      (run goneAdapter ["-t", "tcl", "status"]).failure = some (.report ⟨[], .transport .receive .ended⟩) ∧
      (run goneAdapter ["-t", "tcl", "status"]).sent =
        some (Utf8.bytes "capture \"riscv dmi_write 0x10 0x1\"" ++ [TclServer.endMark]) := by
  have taken : Invocation.ofArguments ["-t", "tcl", "status"] = .ok statusOverTcl := rfl
  have begun (shell : Shell) : statusOverTcl.subcommand ≠ .complete shell := by
    intro same
    cases same
  let request :=
    s!"riscv dmi_write {Hex.text BusAddress.dmcontrol.toNat} {Hex.text Dmcontrol.active.toNat}"
  let command := "capture \"" ++ String.ofList (Tcl.quoteBody request.toList) ++ "\""
  have words : command = "capture \"riscv dmi_write 0x10 0x1\"" := by decide +kernel
  let opened := ((Report.of Session.start).exec (tclCourse goneAdapter statusOverTcl).session).2
  let after : TclServer ScriptedStream := { opened.transport with
    link := { opened.transport.link with
      connection := some { stream := {}, sent := Utf8.bytes command ++ [TclServer.endMark] } } }
  have written : (Bus.write .dmcontrol Dmcontrol.active).exec opened.transport =
      (.error (.transport .receive .ended), after) :=
    Action.exec_bind_error (Action.exec_bind_error
      (TclServer.exec_send_of_ended (t := opened.transport) rfl command) _) _
  have failed : Session.activateDm.exec opened =
      (.error (.transport .receive .ended), opened.withTransport after) := by
    rw [Session.activateDm, Action.exec_bind_ok (Action.exec_log _ _ _ _), Session.writeDmi]
    apply Action.exec_bind_error
    rw [Action.exec_bind_ok (Action.exec_log _ _ _ _), Session.exec_onTransport, written]
  have unready : (tclCourse goneAdapter statusOverTcl).ready.exec opened =
      (.error ⟨[], .transport .receive .ended⟩, opened.withTransport after) := by
    show (Report.of Session.activateDm).exec opened = _
    rw [Report.of, Action.exec_mapError, failed]
    rfl
  have torn : EndsOverLink TclServer.link _ _ _ (run goneAdapter ["-t", "tcl", "status"]) :=
    session_torn_down_once_ready goneAdapter taken begun
  obtain ⟨connection, here, still, nothing, failure, sent⟩ := torn.left_open opened _ _ rfl unready
  obtain rfl := Option.some.inj here
  exact ⟨congrArg Option.isSome still, nothing, failure, words ▸ sent⟩

end Program

end HartDebug
