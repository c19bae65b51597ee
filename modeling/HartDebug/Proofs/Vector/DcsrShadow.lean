import HartDebug.Proofs.Session.Stepping
import HartDebug.Proofs.Vector.RecordedWrites

/-!
# The shadow of `dcsr`

A recording cannot read `dcsr` back, so a step computes what it writes from a value that the session keeps:
the shadow.  Which operations keep it up to date decides what a recorded step does to the other bits of the
register.

A step leaves in the shadow what it has written last, and a reset of the hart leaves zero.  No other
operation touches the shadow, and among these are two that can write the register: a register write, by any
of the names that lead to its number, and a raw write to the bus.  After such a write the shadow is behind,
until the next step or reset.

* `Script.dcsrWrites` — the values that a script writes to `dcsr`;
* `history` — the operations of a run, each with the values that it has recorded;
* `perform_records` — **what each operation records**, and what it leaves in the shadow;
* `exec_step_recording` — the values of a step;
* `dcsrShadow_after_run` — **when the shadow is the value written last**.
-/

namespace HartDebug

open VectorEmitter Session

/-! ## Values written to `dcsr` -/

/-- The values among register writes that went to `dcsr`, as far as it is wide. -/
def dcsrValues (writes : List (RegisterNumber × Value)) : List Word :=
  (writes.filter fun w => w.1 == Catalog.dcsrNumber).map fun w => w.2.setWidth 32

/-- The values that a script writes to `dcsr`, in order. -/
def Script.dcsrWrites (script : String) : List Word :=
  dcsrValues ((Script.registerWrites? script).getD [])

theorem dcsrValues_append (first second : List (RegisterNumber × Value)) :
    dcsrValues (first ++ second) = dcsrValues first ++ dcsrValues second := by
  rw [dcsrValues, List.filter_append, List.map_append]
  rfl

theorem dcsrWrites_artifact {e : VectorEmitter} (h : e.Tracks) :
    Script.dcsrWrites e.artifact = dcsrValues e.port.module.registerWrites := by
  rw [Script.dcsrWrites, h.registerWrites?, Option.getD_some]

theorem dcsrValues_stepWrites (dcsr : Word) : dcsrValues (stepWrites dcsr) = stepValues dcsr := by
  rw [dcsrValues, stepWrites]
  induction stepValues dcsr with
  | nil => rfl
  | cons w rest ih =>
    have whole : (w.setWidth 128).setWidth 32 = w := by
      rw [BitVec.setWidth_setWidth_of_le w (by decide), BitVec.setWidth_eq]
    rw [List.map_cons, List.filter_cons_of_pos (by simp), List.map_cons, ih, whole]

/-! ## A step -/

theorem exec_writeDcsr_recording {t : Session VectorEmitter} (h : t.transport.Tracks) (w : Word) :
    ∃ e : VectorEmitter, (writeDcsr w).exec t = (.ok (), t.withTransport e) ∧ e.Tracks ∧
      e.port.module.registerWrites =
        t.transport.port.module.registerWrites ++ [(Catalog.dcsrNumber, w.setWidth 128)] :=
  exec_writeRegister_recording h (locate_dcsr t) (fits_word t.width w)

theorem exec_currentDcsr_recording (t : Session VectorEmitter) :
    currentDcsr.exec t = (.ok t.dcsrShadow, t) := rfl

theorem exec_finishStep {t : Session VectorEmitter} (h : t.transport.Tracks) (dcsr : Word) :
    ∃ t' : Session VectorEmitter, (finishStep dcsr).exec t = (.ok (), t') ∧ t'.transport.Tracks ∧
      t'.transport.port.module.registerWrites = t.transport.port.module.registerWrites ++
        [(Catalog.dcsrNumber, (dcsr &&& ~~~ stepBit).setWidth 128)] ∧
      t'.dcsrShadow = dcsr &&& ~~~ stepBit := by
  let resumed : Session VectorEmitter :=
    t.withTransport (t.transport.writing .dmcontrol (Dmcontrol.request Dmcontrol.resumereq))
  have asked : (request Dmcontrol.resumereq).exec t = (.ok (), resumed) :=
    exec_writeDmi_recording t .dmcontrol (Dmcontrol.request Dmcontrol.resumereq)
  have silent : Silent t.transport resumed.transport := by
    have quiet := quiet_request Dmcontrol.resumereq t h
    rw [asked] at quiet
    exact quiet.1
  obtain ⟨e, ran, tracks, writes⟩ := exec_writeDcsr_recording silent.tracks (dcsr &&& ~~~ stepBit)
  rw [silent.writes] at writes
  refine ⟨{ resumed.withTransport e with dcsrShadow := dcsr &&& ~~~ stepBit }, ?_, tracks, writes, rfl⟩
  rw [finishStep, Action.exec_bind_ok asked, Action.exec_bind_ok ran]
  rfl

/-- **A step records the values that follow from the shadow**, and leaves the last of them there. -/
theorem exec_step_recording {t : Session VectorEmitter} (h : t.transport.Tracks) :
    ∃ t' : Session VectorEmitter, step.exec t = (.ok (), t') ∧ t'.transport.Tracks ∧
      t'.transport.port.module.registerWrites =
        t.transport.port.module.registerWrites ++ stepWrites t.dcsrShadow ∧
      t'.dcsrShadow = t.dcsrShadow &&& ~~~ stepBit := by
  have started : step.exec t = (if t.dcsrShadow &&& stepBit = 0 then
      writeDcsr (t.dcsrShadow ||| stepBit) >>= fun _ => finishStep t.dcsrShadow
      else finishStep t.dcsrShadow).exec t := by
    rw [step, Action.exec_bind_ok (Action.exec_log _ _ _ t),
      Action.exec_bind_ok (exec_currentDcsr_recording t)]
    rfl
  by_cases clear : t.dcsrShadow &&& stepBit = 0
  · obtain ⟨e, ran, tracks, writes⟩ := exec_writeDcsr_recording h (t.dcsrShadow ||| stepBit)
    obtain ⟨t', finished, tracks', writes', shadow⟩ :=
      exec_finishStep (t := t.withTransport e) tracks t.dcsrShadow
    refine ⟨t', ?_, tracks', ?_, shadow⟩
    · rw [started, if_pos clear, Action.exec_bind_ok ran, finished]
    · rw [writes', stepWrites, stepValues, if_pos clear]
      show e.port.module.registerWrites ++ _ = _
      rw [writes, List.append_assoc]
      rfl
  · obtain ⟨t', finished, tracks', writes', shadow⟩ := exec_finishStep h t.dcsrShadow
    refine ⟨t', ?_, tracks', ?_, shadow⟩
    · rw [started, if_neg clear, finished]
    · rw [writes', stepWrites, stepValues, if_neg clear]
      rfl

/-! ## What each operation records -/

namespace Operation

/-- The register writes that an operation can record, on a session with a given shadow. -/
def MayRecord (shadow : Word) (writes : List (RegisterNumber × Value)) : Operation → Prop
  | .step => writes = stepWrites shadow
  | .writeRegister name value _ =>
    ∃ register, Catalog.standard.resolve name = .ok register ∧ writes = [(register.number, value)]
  | .writeDmi _ _ => True
  | _ => writes = []

/-- What an operation leaves in the shadow. -/
def shadowAfter (shadow : Word) : Operation → Word
  | .step => shadow &&& ~~~ stepBit
  | .resetHart => 0
  | _ => shadow

end Operation

/-- A session after an action that has recorded given register writes and has left a given shadow. -/
structure Leaves (t t' : Session VectorEmitter) (writes : List (RegisterNumber × Value))
    (shadow : Word) : Prop where
  tracks : t'.transport.Tracks
  writes : t'.transport.port.module.registerWrites =
    t.transport.port.module.registerWrites ++ writes
  shadow : t'.dcsrShadow = shadow

theorem Quiet.leaves {t t' : Session VectorEmitter} (h : Quiet t t') (tracks : t.transport.Tracks) :
    Leaves t t' [] t.dcsrShadow := by
  obtain ⟨silent, shadow⟩ := h tracks
  exact ⟨silent.tracks, by rw [silent.writes, List.append_nil], shadow⟩

theorem quiet_disconnect : (onTransport (Bus.disconnect (τ := VectorEmitter))).Moves Quiet := by
  intro t h
  have directives := directives_finish t.transport
  have selected := selected_finish t.transport
  rw [exec_onTransport]
  have port : (VectorEmitter.finish.exec t.transport).2.port = t.transport.port := by
    rw [VectorEmitter.port, VectorEmitter.port, VectorEmitter.steps, VectorEmitter.steps, directives]
  refine ⟨⟨⟨?_, ?_⟩, ?_⟩, rfl⟩
  · intro d mem
    exact h.lines d (directives ▸ mem)
  · show (VectorEmitter.finish.exec t.transport).2.port.selected = _
    rw [port, h.selected, ← selected]
    rfl
  · show (VectorEmitter.finish.exec t.transport).2.port.module.registerWrites = _
    rw [port]

/-- A register write that succeeds records its value under the number of the name. -/
theorem leaves_writeRegister {t t' : Session VectorEmitter} (h : t.transport.Tracks) {name : String}
    {value : Value} {width : Option TransferWidth}
    (ran : (writeRegister name value width).exec t = (.ok (), t')) :
    ∃ writes, (Operation.writeRegister name value width).MayRecord t.dcsrShadow writes ∧
      Leaves t t' writes t.dcsrShadow := by
  obtain ⟨place, s', located, -⟩ := Action.exec_bind_eq_ok ran
  obtain ⟨at_place, fits⟩ := locateFor_eq_ok located
  obtain ⟨e, written, tracks, writes⟩ := exec_writeRegister_recording h at_place fits
  rw [written] at ran
  obtain rfl := (Prod.mk.inj ran).2
  exact ⟨_, ⟨place.register, (locate_eq_ok at_place).1, rfl⟩, tracks, writes, rfl⟩

/-- A raw write records whatever it may; the recording stays tracked. -/
theorem leaves_writeDmi {t : Session VectorEmitter} (h : t.transport.Tracks) (address : BusAddress)
    (data : Word) :
    ∃ writes, Leaves t (t.withTransport (t.transport.writing address data)) writes t.dcsrShadow := by
  have tracks : (t.transport.writing address data).Tracks := h.shift .dmi _
  obtain ⟨more, steps⟩ := (extends_write t.transport address data).steps
  obtain ⟨writes, grown⟩ := ScanPort.registerWrites_drive t.transport.port more
  refine ⟨writes, tracks, ?_, rfl⟩
  show (t.transport.writing address data).port.module.registerWrites = _
  rw [VectorEmitter.port, steps, ScanPort.drive_append]
  exact grown

theorem leaves_resetHart {t t' : Session VectorEmitter} (h : t.transport.Tracks)
    (ran : resetHart.exec t = (.ok (), t')) : Leaves t t' [] 0 := by
  have control : ∀ {e : VectorEmitter} (w : Word), e.Tracks → Silent e (e.writing .dmcontrol w) :=
    fun w tracks => silent_write tracks (by decide)
      (SimulatedModule.registerWrites_writeBus_of_ne _ (by decide) w)
  have requested := control (Dmcontrol.request Dmcontrol.ndmreset) h
  have withdrawn := control Dmcontrol.active requested.tracks
  have seen := silent_expecting withdrawn.tracks .dmstatus Dmstatus.reset Dmstatus.reset
  have acknowledged := control (Dmcontrol.request Dmcontrol.ackhavereset) seen.tracks
  rw [resetHart, Action.exec_bind_ok (Action.exec_log _ _ _ t), request,
    Action.exec_bind_ok (exec_writeDmi_recording _ _ _), withdraw,
    Action.exec_bind_ok (exec_writeDmi_recording _ _ _),
    Action.exec_bind_ok (exec_expectDmi_recording _ _ _ _ _), request,
    Action.exec_bind_ok (exec_writeDmi_recording _ _ _), Action.exec_modify] at ran
  obtain rfl := (Prod.mk.inj ran).2
  refine ⟨acknowledged.tracks, ?_, rfl⟩
  rw [List.append_nil]
  exact acknowledged.writes.trans (seen.writes.trans (withdrawn.writes.trans requested.writes))

/-- The operations that record no register write and leave the shadow alone. -/
theorem quiet_perform {op : Operation} (step : op ≠ .step) (reset : op ≠ .resetHart)
    (write : ∀ name value width, op ≠ .writeRegister name value width)
    (raw : ∀ address data, op ≠ .writeDmi address data) :
    (op.perform (τ := VectorEmitter)).Moves Quiet := by
  have done : ∀ {x : Action DebugError (Session VectorEmitter) Unit}, x.Moves Quiet →
      (do x; pure Operation.Reply.done).Moves Quiet :=
    fun h => h.bind quiet_travel fun _ => .pure quiet_travel _
  cases op with
  | writeDmi address data => exact absurd rfl (raw address data)
  | readDmi address => exact (quiet_readDmi address).map quiet_travel _
  | expectDmi address expected mask failure => exact done (quiet_expectDmi address expected mask failure)
  | resetStickyError =>
    exact done ((quiet_writeDtmcs _).bind quiet_travel fun _ => quiet_expectNoBusError _)
  | hardResetDtm =>
    exact done ((quiet_writeDtmcs _).bind quiet_travel fun _ => quiet_expectNoBusError _)
  | activateDm => exact done quiet_activateDm
  | deactivateDm => exact done quiet_deactivateDm
  | resetDm => exact done (quiet_deactivateDm.bind quiet_travel fun _ => quiet_activateDm)
  | resetTap => exact done quiet_resetTap
  | readIdcode => exact quiet_fails fun _ => rfl
  | expectIdcode expected => exact done (quiet_expectIdcode expected)
  | diagnose => exact quiet_fails fun _ => rfl
  | writeRegister name value width => exact absurd rfl (write name value width)
  | readRegister name width => exact (quiet_readRegister name width).map quiet_travel _
  | expectRegister name expected width => exact done (quiet_expectRegister name expected width)
  | waitForCommand => exact done quiet_waitForCommand
  | clearCommandError => exact done quiet_clearCommandError
  | dumpRegisters group width => exact (quiet_dumpNames group width _).map quiet_travel _
  | discoverProgbufSize => exact quiet_fails fun _ => rfl
  | halt =>
    refine done ((Action.Moves.log quiet_travel _ _ _).bind quiet_travel fun _ => ?_)
    refine (quiet_request _).bind quiet_travel fun _ => ?_
    exact (quiet_expectDmi _ _ _ _).bind quiet_travel fun _ => quiet_withdraw
  | resume =>
    refine done ((Action.Moves.log quiet_travel _ _ _).bind quiet_travel fun _ => ?_)
    exact (quiet_request _).bind quiet_travel fun _ => quiet_expectDmi _ _ _ _
  | step => exact absurd rfl step
  | resetHart => exact absurd rfl reset
  | setHaltOnReset =>
    exact done ((Action.Moves.log quiet_travel _ _ _).bind quiet_travel fun _ => quiet_request _)
  | clearHaltOnReset =>
    exact done ((Action.Moves.log quiet_travel _ _ _).bind quiet_travel fun _ => quiet_request _)
  | hartStatus => exact quiet_fails fun _ => rfl
  | loadProgram program => exact done (quiet_loadProgram program)
  | executeProgram => exact done quiet_executeProgram
  | setWidth width => exact done fun t h => ⟨⟨h, rfl⟩, rfl⟩
  | connect => exact done (quiet_fails fun _ => rfl)
  | disconnect => exact done quiet_disconnect

/-- **What each operation records**, if it succeeds, and what it leaves in the shadow. -/
theorem perform_records {op : Operation} {t t' : Session VectorEmitter} {reply : Operation.Reply}
    (h : t.transport.Tracks) (ran : op.perform.exec t = (.ok reply, t')) :
    ∃ writes, op.MayRecord t.dcsrShadow writes ∧ Leaves t t' writes (op.shadowAfter t.dcsrShadow) := by
  by_cases step : op = .step
  · subst step
    obtain ⟨_, s', stepped, rest⟩ := Action.exec_bind_eq_ok ran
    obtain ⟨t'', stepped', tracks, writes, shadow⟩ := exec_step_recording h
    obtain rfl : s' = t' := (Prod.mk.inj rest).2
    obtain rfl : t'' = s' := (Prod.mk.inj (stepped'.symm.trans stepped)).2
    exact ⟨_, rfl, tracks, writes, shadow⟩
  by_cases reset : op = .resetHart
  · subst reset
    obtain ⟨_, s', done, rest⟩ := Action.exec_bind_eq_ok ran
    obtain rfl : s' = t' := (Prod.mk.inj rest).2
    exact ⟨[], rfl, leaves_resetHart h done⟩
  by_cases write : ∃ name value width, op = .writeRegister name value width
  · obtain ⟨name, value, width, rfl⟩ := write
    obtain ⟨_, s', written, rest⟩ := Action.exec_bind_eq_ok ran
    obtain rfl : s' = t' := (Prod.mk.inj rest).2
    exact leaves_writeRegister h written
  by_cases raw : ∃ address data, op = .writeDmi address data
  · obtain ⟨address, data, rfl⟩ := raw
    obtain ⟨_, s', written, rest⟩ := Action.exec_bind_eq_ok ran
    obtain rfl : s' = t' := (Prod.mk.inj rest).2
    rw [exec_writeDmi_recording] at written
    obtain rfl : _ = s' := (Prod.mk.inj written).2
    obtain ⟨writes, leaves⟩ := leaves_writeDmi h address data
    exact ⟨writes, trivial, leaves⟩
  · have quiet := quiet_perform step reset (fun name value width same => write ⟨name, value, width, same⟩)
      (fun address data same => raw ⟨address, data, same⟩) t
    rw [ran] at quiet
    have leaves := Quiet.leaves quiet h
    cases op <;> first
      | exact ⟨[], rfl, leaves⟩
      | exact absurd rfl step
      | exact absurd rfl reset
      | exact absurd ⟨_, _, _, rfl⟩ write
      | exact absurd ⟨_, _, rfl⟩ raw

/-! ## Runs -/

/-- An operation of a run, with the values of `dcsr` that it has recorded. -/
structure RecordedOperation where
  op : Operation
  written : List Word

/-- The operations of a run, each with the values that the script has gained by it. -/
def history : List Operation → Session VectorEmitter → List RecordedOperation
  | [], _ => []
  | op :: rest, t =>
    let t' := (op.perform.exec t).2
    let before := Script.dcsrWrites t.transport.artifact
    let after := Script.dcsrWrites t'.transport.artifact
    ⟨op, after.drop before.length⟩ :: history rest t'

/-- The value written to `dcsr` last, going on from `last`; a reset of the hart forgets it. -/
def lastWrite (last : Option Word) (h : List RecordedOperation) : Option Word :=
  h.foldl (fun last r => if r.op = .resetHart then none else r.written.getLast?.or last) last

/-- The value written to `dcsr` last by anything but a step, and not followed by a step or a reset. -/
def lastOther (last : Option Word) (h : List RecordedOperation) : Option Word :=
  h.foldl (fun last r =>
    if r.op = .resetHart ∨ r.op = .step then none else r.written.getLast?.or last) last

/-- How the shadow stands to the values written: behind one that no step has written, and equal to the last
one otherwise. -/
def ShadowStands (shadow : Word) (last other : Option Word) : Prop :=
  match other with
  | none => last.getD 0 = shadow
  | some w => last = some w

theorem ShadowStands.eq_iff {shadow : Word} {last other : Option Word}
    (h : ShadowStands shadow last other) : shadow = last.getD 0 ↔ ∀ w, other = some w → w = shadow := by
  cases other with
  | none =>
    have same : last.getD 0 = shadow := h
    exact ⟨fun _ w impossible => absurd impossible (by simp), fun _ => same.symm⟩
  | some w =>
    have known : last = some w := h
    subst known
    constructor
    · intro same w' other
      rw [← Option.some.inj other]
      exact same.symm
    · intro behind
      exact (behind w rfl).symm

/-- **One operation of a run** keeps how the shadow stands, and adds its values at the end. -/
theorem ShadowStands.after {op : Operation} {t t' : Session VectorEmitter}
    {writes : List (RegisterNumber × Value)} {last other : Option Word}
    (may : op.MayRecord t.dcsrShadow writes) (leaves : Leaves t t' writes (op.shadowAfter t.dcsrShadow))
    (stands : ShadowStands t.dcsrShadow last other) :
    ShadowStands t'.dcsrShadow (lastWrite last [⟨op, dcsrValues writes⟩])
      (lastOther other [⟨op, dcsrValues writes⟩]) := by
  rw [leaves.shadow]
  simp only [lastWrite, lastOther, List.foldl_cons, List.foldl_nil]
  by_cases step : op = .step
  · subst step
    have stepped : writes = stepWrites t.dcsrShadow := may
    rw [if_neg (by simp), if_pos (.inr rfl), stepped, dcsrValues_stepWrites, stepValues,
      List.getLast?_append, List.getLast?_singleton]
    rfl
  by_cases reset : op = .resetHart
  · subst reset
    rw [if_pos rfl, if_pos (.inl rfl)]
    rfl
  · rw [if_neg reset, if_neg (not_or.2 ⟨reset, step⟩)]
    have kept : op.shadowAfter t.dcsrShadow = t.dcsrShadow := by
      cases op <;> first | rfl | exact absurd rfl step | exact absurd rfl reset
    rw [kept]
    cases (dcsrValues writes).getLast? with
    | none => exact stands
    | some w => rfl

/-- What an operation adds to the script is what it has recorded. -/
theorem drop_dcsrWrites {t t' : Session VectorEmitter} {writes : List (RegisterNumber × Value)}
    {shadow : Word} (h : t.transport.Tracks) (leaves : Leaves t t' writes shadow) :
    (Script.dcsrWrites t'.transport.artifact).drop
      (Script.dcsrWrites t.transport.artifact).length = dcsrValues writes := by
  rw [dcsrWrites_artifact h, dcsrWrites_artifact leaves.tracks, leaves.writes, dcsrValues_append,
    List.drop_left]

/-- What can be said of a run that has gone through: `values` are those that the script has gained, and
`h` is its history. -/
structure RanThrough (t t' : Session VectorEmitter) (h : List RecordedOperation) : Prop where
  tracks : t'.transport.Tracks
  values : Script.dcsrWrites t'.transport.artifact =
    Script.dcsrWrites t.transport.artifact ++ h.flatMap (·.written)
  stands : ∀ {last other}, ShadowStands t.dcsrShadow last other →
    ShadowStands t'.dcsrShadow (lastWrite last h) (lastOther other h)
  sources : ∀ r ∈ h, r.written ≠ [] → r.op = .step ∨ (∃ address data, r.op = .writeDmi address data) ∨
    ∃ name value width register, r.op = .writeRegister name value width ∧
      Catalog.standard.resolve name = .ok register ∧ register.number = Catalog.dcsrNumber ∧
      r.written = [value.setWidth 32]

theorem ranThrough_nil {t : Session VectorEmitter} (h : t.transport.Tracks) : RanThrough t t [] where
  tracks := h
  values := by simp
  stands stands := stands
  sources r mem := absurd mem List.not_mem_nil

/-- An operation before a run. -/
theorem RanThrough.cons {op : Operation} {t t₁ t' : Session VectorEmitter}
    {writes : List (RegisterNumber × Value)} {h : List RecordedOperation} (tracks : t.transport.Tracks)
    (may : op.MayRecord t.dcsrShadow writes) (leaves : Leaves t t₁ writes (op.shadowAfter t.dcsrShadow))
    (rest : RanThrough t₁ t' h) : RanThrough t t' (⟨op, dcsrValues writes⟩ :: h) where
  tracks := rest.tracks
  values := by
    rw [rest.values, dcsrWrites_artifact leaves.tracks, dcsrWrites_artifact tracks, leaves.writes,
      dcsrValues_append, List.flatMap_cons, List.append_assoc]
  stands stands := rest.stands (ShadowStands.after may leaves stands)
  sources r mem some_written := by
    rcases List.mem_cons.1 mem with rfl | later
    · cases op with
      | step => exact .inl rfl
      | writeDmi address data => exact .inr (.inl ⟨address, data, rfl⟩)
      | writeRegister name value width =>
        obtain ⟨register, resolved, written⟩ := may
        have filtered : dcsrValues writes =
            if register.number = Catalog.dcsrNumber then [value.setWidth 32] else [] := by
          rw [written, dcsrValues, List.filter_cons]
          by_cases same : register.number = Catalog.dcsrNumber
          · simp [same]
          · simp [same]
        by_cases same : register.number = Catalog.dcsrNumber
        · rw [if_pos same] at filtered
          exact .inr (.inr ⟨name, value, width, register, rfl, resolved, same, filtered⟩)
        · rw [if_neg same] at filtered
          exact absurd filtered some_written
      | _ => exact absurd (show dcsrValues writes = [] by rw [show writes = [] from may]; rfl) some_written
    · exact rest.sources r later some_written

/-- **A run of operations that all succeed**, by induction on the operations. -/
theorem ranThrough_performAll {ops : List Operation} {t t' : Session VectorEmitter}
    {replies : List Operation.Reply} (h : t.transport.Tracks)
    (ran : (Operation.performAll ops).exec t = (.ok replies, t')) : RanThrough t t' (history ops t) := by
  induction ops generalizing t replies with
  | nil =>
    obtain rfl : t = t' := (Prod.mk.inj ran).2
    exact ranThrough_nil h
  | cons op rest ih =>
    obtain ⟨reply, t₁, first, ran⟩ := Action.exec_bind_eq_ok ran
    obtain ⟨others, t₂, later, last⟩ := Action.exec_bind_eq_ok ran
    obtain rfl : t₂ = t' := (Prod.mk.inj last).2
    obtain ⟨writes, may, leaves⟩ := perform_records h first
    have step : history (op :: rest) t = ⟨op, dcsrValues writes⟩ :: history rest t₁ := by
      rw [history, first, drop_dcsrWrites h leaves]
    rw [step]
    exact .cons h may leaves (ih leaves.tracks later)

/-- The recording of a fresh session is tracked: nothing is recorded yet. -/
theorem tracks_fresh (config : SessionConfig) (disk : Disk) (timer : Timer) :
    (Session.fresh (VectorEmitter.forConfig config disk) config timer).transport.Tracks :=
  ⟨fun _ mem => absurd mem List.not_mem_nil, rfl⟩

/-- **When the shadow is the value written last.**  After operations that have all succeeded, the shadow is
the value that the script has written to `dcsr` last, since the session began or since the hart was last
reset, exactly if no operation other than a step has written another value since the last step or reset.
Only a register write by a name of `dcsr`, with its value, and a raw write to the bus can be such an
operation.  The next step starts from the shadow: it writes the shadow with the step bit set, unless it is
set, and then the shadow with the step bit clear and every other bit as it is. -/
theorem dcsrShadow_after_run {ops : List Operation} {config : SessionConfig} {disk : Disk}
    {timer : Timer} {replies : List Operation.Reply} {t : Session VectorEmitter}
    (ran : (Operation.performAll ops).exec (.fresh (VectorEmitter.forConfig config disk) config timer) =
      (.ok replies, t)) :
    let h := history ops (.fresh (VectorEmitter.forConfig config disk) config timer)
    (Script.registerWrites? t.transport.artifact).isSome ∧
    Script.dcsrWrites t.transport.artifact = h.flatMap (·.written) ∧
    (t.dcsrShadow = (lastWrite none h).getD 0 ↔ ∀ w, lastOther none h = some w → w = t.dcsrShadow) ∧
    (∀ r ∈ h, r.written ≠ [] → r.op = .step ∨ (∃ address data, r.op = .writeDmi address data) ∨
      ∃ name value width register, r.op = .writeRegister name value width ∧
        Catalog.standard.resolve name = .ok register ∧ register.number = Catalog.dcsrNumber ∧
        r.written = [value.setWidth 32]) ∧
    ∃ t', Session.step.exec t = (.ok (), t') ∧
      Script.dcsrWrites t'.transport.artifact =
        Script.dcsrWrites t.transport.artifact ++ stepValues t.dcsrShadow ∧
      t'.dcsrShadow = t.dcsrShadow &&& ~~~ stepBit := by
  intro h
  have fresh := tracks_fresh config disk timer
  have through : RanThrough _ t h := ranThrough_performAll fresh ran
  have start : ShadowStands (0 : Word) none none := rfl
  have nothing : Script.dcsrWrites (VectorEmitter.forConfig config disk).artifact = [] :=
    dcsrWrites_artifact fresh
  refine ⟨?_, ?_, (through.stands start).eq_iff, through.sources, ?_⟩
  · rw [through.tracks.registerWrites?]
    rfl
  · rw [through.values]
    show Script.dcsrWrites (VectorEmitter.forConfig config disk).artifact ++ _ = _
    rw [nothing, List.nil_append]
  · obtain ⟨t', stepped, tracks, writes, shadow⟩ := exec_step_recording through.tracks
    refine ⟨t', stepped, ?_, shadow⟩
    rw [dcsrWrites_artifact tracks, dcsrWrites_artifact through.tracks, writes, dcsrValues_append,
      dcsrValues_stepWrites]

/-- After a register write by name the shadow is behind: it still holds zero. -/
theorem dcsrShadow_after_write :
    let start : Session VectorEmitter :=
      .fresh (VectorEmitter.forConfig {} {}) {} { clock := .steady 1 (by decide) }
    let ops : List Operation := [.writeRegister "DCSR" 0x10 none]
    ∃ replies t, (Operation.performAll ops).exec start = (.ok replies, t) ∧
      t.dcsrShadow = 0 ∧ lastWrite none (history ops start) = some 0x10 ∧
      ¬ t.dcsrShadow = (lastWrite none (history ops start)).getD 0 ∧
      (t.dcsrShadow = (lastWrite none (history ops start)).getD 0 ↔
        ∀ w, lastOther none (history ops start) = some w → w = t.dcsrShadow) := by
  intro start ops
  have fresh : start.transport.Tracks := tracks_fresh {} {} { clock := .steady 1 (by decide) }
  have fits : Value.Fits start.width.bits (0x10 : Value) := by decide
  obtain ⟨e, written, tracks, writes⟩ :=
    exec_writeRegister_recording fresh (locate_dcsr start) fits
  have first : (Operation.writeRegister "DCSR" 0x10 none).perform.exec start =
      (.ok .done, start.withTransport e) := by
    rw [Operation.perform, Action.exec_bind_ok written]
    rfl
  have ran : (Operation.performAll ops).exec start = (.ok [.done], start.withTransport e) := by
    rw [Operation.performAll, Action.exec_bind_ok first]
    rfl
  have gained : Script.dcsrWrites e.artifact = [0x10] := by
    rw [dcsrWrites_artifact tracks, writes]
    rfl
  have last : lastWrite none (history ops start) = some 0x10 := by
    have nothing : Script.dcsrWrites start.transport.artifact = [] := dcsrWrites_artifact fresh
    rw [history, first, nothing]
    show lastWrite none [⟨_, Script.dcsrWrites e.artifact⟩] = _
    rw [gained]
    rfl
  have behind : ¬ start.dcsrShadow = (some (0x10 : Word)).getD 0 := by decide
  exact ⟨_, _, ran, rfl, last, by rw [last]; exact behind, (dcsrShadow_after_run ran).2.2.1⟩

end HartDebug
