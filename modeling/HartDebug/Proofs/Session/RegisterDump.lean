import HartDebug.Proofs.Session.LatchedError
import HartDebug.Proofs.Session.RegisterFile
import Mathlib.Data.List.Induction

/-!
# Dumps of registers

A dump takes the exception of a read for the end of what the hart implements.  The exception need not be
its own: one that was reported earlier stays latched, makes the module drop the first read of the dump, and
is reported again.  So what a dump shows depends on the operations before it.

* `SimulatedModule.dumped` — what is to be shown: values up to the first register that is missing;
* `Session.ends_readRegister` — one read, whatever is latched;
* `Session.ends_dumpNames` — **a dump with an exception latched shows nothing at all**, any other one what
  is to be shown;
* `ExceptionPending` — an exception was reported, and nothing has cleared it since;
* `Session.dump_after_history` — **which registers have a value**, after any operations.
-/

namespace HartDebug

open Action (Triple Ends)

namespace SimulatedModule

/-- What a dump is to show: the low bits of each register up to the first that is not implemented. -/
def dumped (m : SimulatedModule) (bits : Nat) :
    List (String × RegisterNumber) → List (String × Option Value)
  | [] => []
  | (name, number) :: rest =>
    if number ∈ m.unimplemented then (name, none) :: rest.map fun r => (r.1, none)
    else (name, some (m.registers.get number &&& Value.lowMask bits)) :: m.dumped bits rest

/-- A dump is to show a value for a register unless it, or one before it, is not implemented. -/
theorem getElem?_dumped (m : SimulatedModule) (bits : Nat) (name : String) (number : RegisterNumber)
    (after before : List (String × RegisterNumber)) :
    ∃ value, (m.dumped bits (before ++ (name, number) :: after))[before.length]? = some (name, value) ∧
      (value = none ↔ ∃ r ∈ before ++ [(name, number)], r.2 ∈ m.unimplemented) ∧
      ∀ v, value = some v → v = m.registers.get number &&& Value.lowMask bits := by
  induction before with
  | nil =>
    by_cases missing : number ∈ m.unimplemented
    · exact ⟨none, by simp [dumped, missing], by simp [missing], nofun⟩
    · exact ⟨some _, by simp [dumped, missing], by simp [missing], fun v same => (Option.some.inj same).symm⟩
  | cons r before ih =>
    obtain ⟨name', number'⟩ := r
    by_cases missing : number' ∈ m.unimplemented
    · exact ⟨none, by simp [dumped, missing], by simp [missing], nofun⟩
    · obtain ⟨value, shown, hidden_iff, held⟩ := ih
      refine ⟨value, by simpa [dumped, missing] using shown, ?_, held⟩
      rw [hidden_iff]
      simp [missing]

/-- What is to be shown depends on the registers, and on which of them there are. -/
theorem dumped_congr {m m' : SimulatedModule} (registers : m'.registers = m.registers)
    (unimplemented : m'.unimplemented = m.unimplemented) (bits : Nat) (l : List (String × RegisterNumber)) :
    m'.dumped bits l = m.dumped bits l := by
  induction l with
  | nil => rfl
  | cons r rest ih => rw [dumped, dumped, registers, unimplemented, ih]

theorem map_fst_dumped (m : SimulatedModule) (bits : Nat) (registers : List (String × RegisterNumber)) :
    (m.dumped bits registers).map (·.1) = registers.map (·.1) := by
  induction registers with
  | nil => rfl
  | cons r rest ih =>
    obtain ⟨name, number⟩ := r
    by_cases missing : number ∈ m.unimplemented
    · simp [dumped, missing]
    · simpa [dumped, missing] using ih

end SimulatedModule

namespace Session

variable {error : Word} {s t : Session SimulatedModule} {name : String} {width : Option TransferWidth}
  {place : Place}

/-! ## One read -/

/-- All that a dump looks at is as it was. -/
structure Intact (s t : Session SimulatedModule) : Prop where
  setUp : s.transport.SetUpAlike t.transport
  registers : t.transport.registers = s.transport.registers
  width : t.width = s.width

/-- How a read fails: with an exception that is latched, since the register is missing if nothing was latched
before; or with anything else. -/
def Misses (error : Word) (number : RegisterNumber) (s : Session SimulatedModule) (e : DebugError)
    (t : Session SimulatedModule) : Prop :=
  (e = .command .exception ∧ s.transport.connected = true ∧
    (error = 0 → number ∈ s.transport.unimplemented) ∧ Latched 3 t ∧ Intact s t) ∨
  (e ≠ .command .exception ∧ Left error e t)

/-- A command that moves a register out of the hart, as the module takes it. -/
theorem taken_read (simple : error = 0 ∨ error = 3) (latched : Latched error s) (number : RegisterNumber)
    (width : TransferWidth) :
    let m := s.transport.execute (AccessRegister.move number width false)
    (m.cmderr = 0 ∧ error = 0 ∧ number ∉ s.transport.unimplemented ∧
      m = s.transport.started.holding (s.transport.registers.get number) width.slots) ∨
    (m.cmderr = 3 ∧ (error = 0 → number ∈ s.transport.unimplemented) ∧
      m.registers = s.transport.registers) := by
  intro m
  by_cases clear : error = 0
  · have ready : s.transport.Ready := ⟨latched.error.trans clear, latched.idle, latched.free⟩
    by_cases missing : number ∈ s.transport.unimplemented
    · have raised : m = { s.transport.started with cmderr := 3 } :=
        SimulatedModule.execute_move_unimplemented ready missing width false
      rw [raised]
      exact .inr ⟨rfl, fun _ => missing, rfl⟩
    · have moved : m = _ := SimulatedModule.execute_read ready missing width
      rw [moved]
      exact .inl ⟨ready.clear, clear, missing, rfl⟩
  · have dropped : m = s.transport :=
      SimulatedModule.execute_of_latched latched.isBusy (latched.error ▸ clear) _
    rw [dropped]
    exact .inr ⟨latched.error.trans (simple.resolve_left clear), fun none => absurd none clear, rfl⟩

/-- **One read.**  It answers the register if nothing is latched and the register is there. -/
theorem ends_readRegister (simple : error = 0 ∨ error = 3) (latched : Latched error s)
    (located : s.locate name width = .ok place) :
    Ends
      (fun value t => error = 0 ∧ place.register.number ∉ s.transport.unimplemented ∧
        value = s.transport.registers.get place.register.number &&& Value.lowMask place.bits ∧
        Latched 0 t ∧ Intact s t)
      (Misses error place.register.number s) ((readRegister name width).exec s) := by
  rw [exec_readRegister_of_located (isLive_module s) located]
  cases connected : s.transport.connected with
  | false =>
    rw [moveRegister, Action.exec_bind_error
      (Action.exec_bind_error (exec_writeDmi_refused connected _ _) _)]
    exact .inr ⟨by simp, .of_ne (by simp) latched⟩
  | true =>
    have moved := ends_command simple latched connected
      (AccessRegister.move place.register.number place.width false)
    have taken := taken_read simple latched place.register.number place.width
    have same := SimulatedModule.setUpAlike_execute s.transport
      (AccessRegister.move place.register.number place.width false)
    generalize s.transport.execute (AccessRegister.move place.register.number place.width false) = m
      at moved taken same
    rw [Action.exec_bind]
    change Ends _ _ ((moveRegister place false).exec s) at moved
    generalize (moveRegister place false).exec s = ran at moved
    obtain ⟨outcome, t⟩ := ran
    cases outcome with
    | ok a =>
      obtain ⟨clear, timer, rfl⟩ := moved
      obtain ⟨-, none_before, there, rfl⟩ := taken.resolve_right fun raised =>
        absurd (raised.1.symm.trans clear) (by decide)
      have fetched := exec_mapM_readDmi
        (t := (s.withTransport (s.transport.started.holding
          (s.transport.registers.get place.register.number) place.width.slots)).sometime 0 timer)
        connected place.width.slots_le fun slot inside below =>
          (SimulatedModule.getElem_holding _ _ _ slot inside).trans (if_pos below)
      dsimp only
      rw [Action.exec_map_ok fetched, ofWords_words_of_locate located]
      exact ⟨none_before, there, rfl, ⟨rfl, latched.free, clear⟩,
        ⟨same.trans ⟨rfl, rfl, rfl, rfl, rfl, rfl, rfl⟩, rfl, rfl⟩⟩
    | error e =>
      rcases moved with ⟨raised, rfl, timer, rfl⟩ | ⟨limit, rfl⟩
      · obtain ⟨exception, missing, registers⟩ := taken.resolve_left fun clear => raised clear.1
        refine .inl ⟨rfl, connected, missing, ⟨rfl, same.stuckBusy.trans latched.free, exception⟩, ?_⟩
        exact ⟨same.trans ⟨rfl, rfl, rfl, rfl, rfl, rfl, rfl⟩, registers, rfl⟩
      · exact .inr ⟨by simp, .inl ⟨limit, rfl⟩⟩

/-! ## One dump -/

/-- A register that is missing ends the dump: the error is cleared, and nothing more has a value. -/
theorem ends_skip (latched : Latched 3 s) (connected : s.transport.connected = true)
    (group : RegisterGroup) (name : String) (rest : List String) :
    Ends (fun entries t => entries = (name :: rest).map (fun n => (n, none)) ∧ Latched 0 t)
      (fun e _ => ∃ limit, e = .busyTimeout limit)
      ((do
        Action.log .warn .abstractCommand
          s!"{name} is not implemented, skipping the rest of the {group.text} registers"
        clearCommandError
        pure ((name :: rest).map fun n => (n, none)) :
          Action DebugError _ (List (String × Option Value))).exec s) := by
  have cleared := ends_clearCommandError (.inr rfl) latched connected
  rw [Action.exec_bind_ok (Action.exec_log _ _ _ s), Action.exec_bind]
  generalize clearCommandError.exec s = ran at cleared
  obtain ⟨outcome, t⟩ := ran
  cases outcome with
  | ok a => exact ⟨rfl, cleared.latched latched.free⟩
  | error e => exact cleared

/-- **A dump shows what is to be shown if nothing is latched**, and nothing at all if an exception is.  The
induction is on the registers; after the first read nothing is latched any more. -/
theorem ends_dumpNames (simple : error = 0 ∨ error = 3) (group : RegisterGroup)
    {registers : List (String × RegisterNumber)}
    (known : ∀ r ∈ registers, Catalog.standard.resolve r.1 = .ok ⟨r.1, r.2, none⟩)
    (latched : Latched error s) (some_read : error = 0 ∨ registers ≠ []) :
    Ends
      (fun entries t => Latched 0 t ∧ entries =
        if error = 0 then s.transport.dumped (width.getD s.width).bits registers
        else registers.map fun r => (r.1, none))
      (Left error) ((dumpNames group width (registers.map (·.1))).exec s) := by
  induction registers generalizing s error with
  | nil =>
    obtain rfl := some_read.resolve_right fun other => other rfl
    exact ⟨latched, rfl⟩
  | cons r rest ih =>
    obtain ⟨name, number⟩ := r
    have read := ends_readRegister simple latched
      (locate_of_plain (known _ List.mem_cons_self) s width)
    show Ends _ _ ((dumpNames group width (name :: rest.map (·.1))).exec s)
    rw [dumpNames, Action.exec_bind_ok (Action.exec_attempt _ s)]
    generalize (readRegister name width).exec s = ran at read
    obtain ⟨outcome, t⟩ := ran
    cases outcome with
    | ok value =>
      obtain ⟨rfl, there, rfl, clear, intact⟩ := read
      have further := ih simple (fun r' mem => known r' (List.mem_cons_of_mem _ mem)) clear (.inl rfl)
      have alike : t.transport.dumped (width.getD t.width).bits rest =
          s.transport.dumped (width.getD s.width).bits rest := by
        rw [intact.width]
        exact SimulatedModule.dumped_congr intact.registers intact.setUp.unimplemented _ rest
      dsimp only
      rw [Action.exec_bind]
      generalize (dumpNames group width (rest.map (·.1))).exec t = ran at further
      obtain ⟨outcome, u⟩ := ran
      cases outcome with
      | ok others =>
        refine ⟨further.1, ?_⟩
        rw [if_pos rfl, SimulatedModule.dumped, if_neg there, further.2, if_pos rfl, alike]
      | error e => exact further
    | error e =>
      rcases read with ⟨rfl, connected, missing, exception, intact⟩ | ⟨other, left⟩
      · have skipped := ends_skip exception (intact.setUp.connected.trans connected) group name
          (rest.map (·.1))
        refine skipped.mono (fun entries u ended => ⟨ended.2, ?_⟩) fun e u late => .inl late
        rw [ended.1, List.map_cons, List.map_map]
        split
        · next clear =>
          rw [SimulatedModule.dumped, if_pos (missing clear)]
          rfl
        · rfl
      · -- Any other error goes on to the caller as it is.
        cases e with
        | command raised => cases raised <;> first | exact absurd rfl other | exact left
        | _ => exact left

/-- A dump always clears what is latched, and shows what is to be shown only if nothing was. -/
theorem ends_dumpRegisters (simple : error = 0 ∨ error = 3) (latched : Latched error s)
    (group : RegisterGroup) (width : Option TransferWidth) :
    Ends
      (fun entries t => Latched 0 t ∧ entries =
        if error = 0 then s.transport.dumped (width.getD s.width).bits group.registers
        else group.registers.map fun r => (r.1, none))
      (Left error) ((dumpRegisters group width).exec s) := by
  rw [dumpRegisters, ← Catalog.map_fst_registers]
  refine ends_dumpNames simple group (fun r mem => Catalog.resolve_of_mem_registers mem) latched (.inr ?_)
  cases group <;> exact List.cons_ne_nil _ _

/-! ## Any operations before the dump -/

end Session

/-- The operation leaves no error latched, if it succeeds. -/
def Operation.clears : Operation → Bool
  | .clearCommandError => true
  | .dumpRegisters _ _ => true
  | _ => false

/-- What is latched after an operation has ended. -/
def latchedAfter (error : Word) : Operation × Except DebugError Operation.Reply → Word
  | (op, .ok _) => if op.clears then 0 else error
  | (_, .error e) => if e = .command .exception then 3 else error

/-- An exception was reported, and no operation that clears it has succeeded since. -/
def ExceptionPending (trail : List (Operation × Except DebugError Operation.Reply)) : Prop :=
  ∃ before op after, trail = before ++ (op, .error (.command .exception)) :: after ∧
    ∀ step ∈ after, step.1.clears = true → ∀ reply, step.2 ≠ .ok reply

variable {error : Word}

theorem simple_latchedAfter (simple : error = 0 ∨ error = 3)
    (step : Operation × Except DebugError Operation.Reply) :
    latchedAfter error step = 0 ∨ latchedAfter error step = 3 := by
  obtain ⟨op, outcome⟩ := step
  cases outcome with
  | ok reply =>
    rw [latchedAfter]
    split
    · exact .inl rfl
    · exact simple
  | error e =>
    rw [latchedAfter]
    split
    · exact .inr rfl
    · exact simple

/-- One more operation reports an exception, or leaves one pending. -/
theorem exceptionPending_snoc (trail : List (Operation × Except DebugError Operation.Reply))
    (step : Operation × Except DebugError Operation.Reply) :
    ExceptionPending (trail ++ [step]) ↔ step.2 = .error (.command .exception) ∨
      ExceptionPending trail ∧ (step.1.clears = true → ∀ reply, step.2 ≠ .ok reply) := by
  constructor
  · rintro ⟨before, op, after, split, uncleared⟩
    rcases List.eq_nil_or_concat after with rfl | ⟨after, last, rfl⟩
    · obtain ⟨-, same⟩ := List.append_inj' split rfl
      exact .inl (by rw [List.singleton_inj.1 same])
    · rw [List.concat_eq_append, ← List.cons_append, ← List.append_assoc] at split
      obtain ⟨rfl, same⟩ := List.append_inj' split rfl
      obtain rfl := List.singleton_inj.1 same
      refine .inr ⟨⟨before, op, after, rfl, fun step mem => ?_⟩, ?_⟩
      · exact uncleared step (by simp [mem])
      · exact uncleared _ (by simp)
  · rintro (reported | ⟨⟨before, op, after, rfl, uncleared⟩, kept⟩)
    · exact ⟨trail, step.1, [], by rw [← reported], by simp⟩
    · refine ⟨before, op, after ++ [step], by simp, fun other mem => ?_⟩
      rcases List.mem_append.1 mem with mem | mem
      · exact uncleared other mem
      · rw [List.mem_singleton.1 mem]
        exact kept

/-- **An exception is latched exactly if it is pending.**  The induction adds the operations at the end. -/
theorem foldl_latchedAfter (trail : List (Operation × Except DebugError Operation.Reply)) :
    (trail.foldl latchedAfter 0 = 3 ↔ ExceptionPending trail) ∧
      (trail.foldl latchedAfter 0 = 0 ∨ trail.foldl latchedAfter 0 = 3) := by
  induction trail using List.reverseRecOn with
  | nil =>
    refine ⟨⟨fun none => absurd none (by decide), ?_⟩, .inl rfl⟩
    rintro ⟨before, op, after, split, -⟩
    simp at split
  | append_singleton trail step ih =>
    obtain ⟨pending, simple⟩ := ih
    rw [List.foldl_append, List.foldl_cons, List.foldl_nil, exceptionPending_snoc]
    refine ⟨?_, simple_latchedAfter simple step⟩
    rw [← pending]
    obtain ⟨op, outcome⟩ := step
    cases outcome with
    | ok reply =>
      cases clears : op.clears <;> simp [latchedAfter, clears]
    | error e =>
      by_cases exception : e = .command .exception <;> simp [latchedAfter, exception]

namespace Session

/-- **One operation**, with what is latched before and after it. -/
theorem triple_perform_latched (simple : error = 0 ∨ error = 3) {op : Operation}
    (cooked : ∀ address data, op ≠ .writeDmi address data) :
    Triple (Latched error) op.perform (fun _ => Latched (if op.clears then 0 else error)) (Left error) := by
  have others (plain : op.clears = false) :
      Triple (Latched error) op.perform (fun _ => Latched (if op.clears then 0 else error))
        (Left error) := by
    rw [plain]
    refine (composes_keeps simple).parts.perform cooked
      (fun _ => keeps_access fun _ idle => ⟨idle, rfl, rfl, nofun⟩)
      (fun _ => keeps_access fun _ idle => ⟨idle, rfl, rfl, nofun⟩)
      (fun clear => ?_) fun group width dump => ?_
    · rw [clear] at plain
      cases plain
    · rw [dump] at plain
      cases plain
  cases op with
  | clearCommandError =>
    exact (triple_clearCommandError_latched simple).bind fun _ => .pure fun _ clear => clear
  | dumpRegisters group width =>
    refine Triple.map _ fun s latched => ?_
    exact (ends_dumpRegisters simple latched group width).mono (fun _ _ ended => ended.1) fun _ _ h => h
  | _ => exact others rfl

/-- **What is latched after operations**, none of which has run out of time. -/
theorem Latched.performEach {ops : List Operation}
    (cooked : ∀ op ∈ ops, ∀ address data, op ≠ .writeDmi address data)
    (simple : error = 0 ∨ error = 3) {s t : Session SimulatedModule} (latched : Latched error s)
    {outcomes : List (Except DebugError Operation.Reply)}
    (ran : (Operation.performEach ops).exec s = (.ok outcomes, t))
    (in_time : ∀ limit, .error (.busyTimeout limit) ∉ outcomes) :
    Latched ((ops.zip outcomes).foldl latchedAfter error) t := by
  refine (performEach_carries latchedAfter (fun error s => (error = 0 ∨ error = 3) ∧ Latched error s)
    (fun op mem error s latched outcome s' ran => ?_) ⟨simple, latched⟩ ran in_time).2
  have ended := triple_perform_latched latched.1 (cooked op mem) s latched.2
  rw [ran] at ended
  have still := simple_latchedAfter latched.1 (op, outcome)
  cases outcome with
  | ok reply => exact .inl ⟨still, ended⟩
  | error e =>
    rcases ended with ⟨limit, rfl⟩ | left
    · exact .inr ⟨limit, rfl⟩
    · exact .inl ⟨still, left⟩

/-- **Which registers of a dump have a value.**  Operations run on a module that begins idle, not stuck and
with no error latched, failing or not, raw writes apart; none of them runs out of time.  A dump after them
that succeeds lists the registers of its group in order.  One of them has no value exactly if it, or one
before it, is not implemented, or if the operations have left an exception pending; then none of them has
one.  A value is what the register holds, as far as the bits of the access go. -/
theorem dump_after_history {s : Session SimulatedModule} (idle : s.transport.busyLeft = 0)
    (free : s.transport.stuckBusy = false) (clear : s.transport.cmderr = 0) {ops : List Operation}
    (cooked : ∀ op ∈ ops, ∀ address data, op ≠ .writeDmi address data)
    {outcomes : List (Except DebugError Operation.Reply)} {t : Session SimulatedModule}
    (ran : (Operation.performEach ops).exec s = (.ok outcomes, t))
    (in_time : ∀ limit, .error (.busyTimeout limit) ∉ outcomes) {group : RegisterGroup}
    {width : Option TransferWidth} {entries : List (String × Option Value)} {u : Session SimulatedModule}
    (dumped : (dumpRegisters group width).exec t = (.ok entries, u)) :
    entries.map (·.1) = group.members ∧
    ∀ before name number after, group.registers = before ++ (name, number) :: after →
      ∃ value, entries[before.length]? = some (name, value) ∧
        (value = none ↔ ExceptionPending (ops.zip outcomes) ∨
          ∃ r ∈ before ++ [(name, number)], r.2 ∈ t.transport.unimplemented) ∧
        ∀ v, value = some v →
          v.toNat = (t.transport.registers.get number).toNat % 2 ^ (width.getD t.width).bits := by
  have start : Latched 0 s := ⟨idle, free, clear⟩
  have latched := start.performEach cooked (.inl rfl) ran in_time
  obtain ⟨pending, simple⟩ := foldl_latchedAfter (ops.zip outcomes)
  generalize (ops.zip outcomes).foldl latchedAfter 0 = error at latched pending simple
  have ended := ends_dumpRegisters simple latched group width
  rw [dumped] at ended
  obtain ⟨-, rfl⟩ := ended
  rw [← pending, ← Catalog.map_fst_registers]
  by_cases none_latched : error = 0
  · rw [if_pos none_latched]
    refine ⟨SimulatedModule.map_fst_dumped _ _ _, fun before name number after split => ?_⟩
    rw [split]
    obtain ⟨value, shown, hidden_iff, held⟩ :=
      t.transport.getElem?_dumped (width.getD t.width).bits name number after before
    refine ⟨value, shown, ?_, fun v same => ?_⟩
    · rw [hidden_iff, none_latched]
      simp
    · rw [held v same]
      exact Value.toNat_and_lowMask _ (width.getD t.width).bits_le
  · have exception := simple.resolve_left none_latched
    rw [if_neg none_latched, List.map_map]
    refine ⟨rfl, fun before name number after split => ⟨none, ?_, ?_, nofun⟩⟩
    · rw [split]
      simp
    · simp [exception]

/-- A read that raises an exception, or is dropped because of one. -/
theorem exec_readRegister_of_raised {s : Session SimulatedModule} {name : String}
    {width : Option TransferWidth} {place : Place} {m : SimulatedModule}
    (connected : s.transport.connected = true)
    (located : s.locate name width = .ok place)
    (taken : s.transport.execute (AccessRegister.move place.register.number place.width false) = m)
    (raised : m.cmderr = 3) (free : m.stuckBusy = false) (idle : m.busyLeft = 0) :
    (readRegister name width).exec s =
      (.error (.command .exception), (s.withTransport m).polled) := by
  have same := SimulatedModule.setUpAlike_execute s.transport
    (AccessRegister.move place.register.number place.width false)
  rw [taken] at same
  have fits : m.ErrorFits := by
    rw [SimulatedModule.ErrorFits, raised]
    decide
  have waited := exec_waitForCommand (s := s.withTransport m) (same.connected.trans connected) fits free
    (drainsInTime_of_idle idle)
  rw [if_neg (by rw [show (s.withTransport m).transport.cmderr = 3 from raised]; decide),
    show (s.withTransport m).transport.cmderr = 3 from raised] at waited
  rw [exec_readRegister_of_located (isLive_module s) located]
  refine Action.exec_bind_error ?_ _
  rw [moveRegister, Action.exec_bind_ok (exec_writeDmi connected _ _), SimulatedModule.writeBus_command,
    taken]
  exact waited

/-- A register that does not exist is read, and then the integer registers are dumped.  All of these exist,
but none is shown. -/
theorem dump_after_missing_read :
    ∃ (s t u : Session SimulatedModule) (outcomes : List (Except DebugError Operation.Reply))
        (entries : List (String × Option Value)),
      let ops : List Operation := [.readRegister "DCSR" none]
      (s.transport.busyLeft = 0 ∧ s.transport.stuckBusy = false ∧ s.transport.cmderr = 0 ∧
        (∀ op ∈ ops, ∀ address data, op ≠ .writeDmi address data) ∧
        (Operation.performEach ops).exec s = (.ok outcomes, t) ∧
        (∀ limit, .error (.busyTimeout limit) ∉ outcomes) ∧
        (dumpRegisters .integer none).exec t = (.ok entries, u)) ∧
      (entries = RegisterGroup.integer.members.map (fun name => (name, none)) ∧
        ∀ r ∈ RegisterGroup.integer.registers, r.2 ∉ t.transport.unimplemented) ∧
      entries.map (·.1) = RegisterGroup.integer.members ∧
      ∀ before name number after, RegisterGroup.integer.registers = before ++ (name, number) :: after →
        ∃ value, entries[before.length]? = some (name, value) ∧
          (value = none ↔ ExceptionPending (ops.zip outcomes) ∨
            ∃ r ∈ before ++ [(name, number)], r.2 ∈ t.transport.unimplemented) ∧
          ∀ v, value = some v →
            v.toNat = (t.transport.registers.get number).toNat %
              2 ^ ((none : Option TransferWidth).getD t.width).bits := by
  let m : SimulatedModule := { connected := true, unimplemented := [Catalog.dcsrNumber] }
  let s : Session SimulatedModule := .fresh m {} { clock := .steady 1 (by decide) }
  let t := (s.withTransport { m with cmderr := 3 }).polled
  let cleared := t.polled.transport.writeBus .abstractcs Abstractcs.cmderr.mask
  let u := (t.polled.withTransport cleared).polled
  have missing : m.execute (AccessRegister.move Catalog.dcsrNumber .w64 false) = { m with cmderr := 3 } :=
    SimulatedModule.execute_move_unimplemented ⟨rfl, rfl, rfl⟩ (by decide) _ _
  have raised : (readRegister "DCSR" none).exec s = (.error (.command .exception), t) :=
    exec_readRegister_of_raised rfl (locate_dcsr s) missing rfl rfl rfl
  have ran : (Operation.performEach [.readRegister "DCSR" none]).exec s =
      (.ok [.error (.command .exception)], t) := by
    rw [Operation.exec_performEach_cons, Operation.perform, Action.exec_map, raised]
    rfl
  have first : ("X0", 0x1000) ∈ RegisterGroup.integer.registers := by decide
  have late : t.transport.execute (AccessRegister.move 0x1000 .w64 false) = t.transport :=
    SimulatedModule.execute_of_latched (by decide) (by decide) _
  have dropped : (readRegister "X0" none).exec t = (.error (.command .exception), t.polled) :=
    exec_readRegister_of_raised rfl (locate_of_plain (Catalog.resolve_of_mem_registers first) t none) late
      rfl rfl rfl
  have acknowledged : clearCommandError.exec t.polled = (.ok (), u) := by
    rw [exec_clearCommandError rfl (by decide) rfl (drainsInTime_of_idle rfl),
      if_pos (SimulatedModule.cmderr_cleared (by decide))]
  have dumped : (dumpRegisters .integer none).exec t =
      (.ok (RegisterGroup.integer.members.map fun name => (name, none)), u) := by
    obtain ⟨rest, members⟩ : ∃ rest, RegisterGroup.integer.members = "X0" :: rest := ⟨_, rfl⟩
    rw [dumpRegisters, members, dumpNames, Action.exec_bind_ok (Action.exec_attempt _ t), dropped]
    dsimp only
    rw [Action.exec_bind_ok (Action.exec_log _ _ _ _), Action.exec_bind_ok acknowledged]
    rfl
  have cooked : ∀ op ∈ [Operation.readRegister "DCSR" none], ∀ address data,
      op ≠ .writeDmi address data := by
    simp
  have in_time : ∀ limit, .error (DebugError.busyTimeout limit) ∉
      [(.error (.command .exception) : Except DebugError Operation.Reply)] := by
    simp
  refine ⟨s, t, u, _, _, ⟨rfl, rfl, rfl, cooked, ran, in_time, dumped⟩, ⟨rfl, by decide⟩, ?_⟩
  exact dump_after_history rfl rfl rfl cooked ran in_time dumped

end Session

end HartDebug
