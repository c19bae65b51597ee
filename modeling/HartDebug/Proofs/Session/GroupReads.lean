import HartDebug.Proofs.Effects
import HartDebug.Proofs.Session.Places
import HartDebug.Proofs.Session.Waiting
import HartDebug.Target.Simulated

/-!
# How a dump of registers goes

A dump reads the registers of a group one after another, and each read can end in three ways: with a value, with
an exception, or with any other error.  The first exception is cleared and ends the dump well, any other error
ends it as it is, and in neither case is a further register asked for.

* `Session.DumpEnds` — the four ways in which a dump goes;
* `Session.dumpEnds_dumpNames` — **every dump goes in one of them**, on every transport;
* `Session.Wrote` — what a run has written on the bus, reading apart;
* `Session.wrote_of_dumpEnds` — **a command for each register asked for**, and for an exception that it be
  cleared;
* `Session.dumpRegisters_in_order` — what every dump of a group does.
-/

namespace HartDebug

open Action (Moves IsTravel)

variable {τ α β : Type}

/-! ### Calls that write -/

namespace TransportCall

/-- Calls that write to the debug module as listed, and otherwise read from it. -/
inductive Writing : List TransportCall → List (BusAddress × Word) → Prop where
  | none : Writing [] []
  | read {address : BusAddress} {calls : List TransportCall} {writes : List (BusAddress × Word)}
      (rest : Writing calls writes) : Writing (.read address :: calls) writes
  | write {address : BusAddress} {data : Word} {calls : List TransportCall} {writes : List (BusAddress × Word)}
      (rest : Writing calls writes) : Writing (.write address data :: calls) ((address, data) :: writes)

variable {calls calls' : List TransportCall} {writes writes' : List (BusAddress × Word)}

theorem Writing.append (first : Writing calls writes) (second : Writing calls' writes') :
    Writing (calls ++ calls') (writes ++ writes') := by
  induction first with
  | none => exact second
  | read _ ih => exact .read ih
  | write _ ih => exact .write ih

/-- Looks write nothing. -/
theorem writing_replicate_read (address : BusAddress) (n : Nat) :
    Writing (List.replicate n (.read address)) [] := by
  induction n with
  | zero => exact .none
  | succ n ih => exact .read ih

end TransportCall

namespace Session

/-! ### The ways of a dump -/

section Ways

variable [Transport τ]

/-- Read registers one after another, every one of them. -/
def readEach (width : Option TransferWidth) (registers : List (String × RegisterNumber)) :
    Action DebugError (Session τ) (List Value) :=
  registers.mapM fun r => readRegister r.1 width

/-- The entries of registers that have a value. -/
def shown (registers : List (String × RegisterNumber)) (values : List Value) : List (String × Option Value) :=
  (registers.map (·.1)).zip (values.map some)

/-- The entries of registers that have none. -/
def hidden (registers : List (String × RegisterNumber)) : List (String × Option Value) :=
  registers.map fun r => (r.1, none)

/-- How a dump of some registers goes.  `asked` are the registers that have been asked for, and `cleared` says
that an exception was to be cleared. -/
inductive DumpEnds (width : Option TransferWidth) (s : Session τ) (registers : List (String × RegisterNumber)) :
    (asked : List (String × RegisterNumber)) → (cleared : Bool) →
      Except DebugError (List (String × Option Value)) × Session τ → Prop where
  /-- All registers are read. -/
  | complete {values : List Value} {t : Session τ}
      (answered : (readEach width registers).exec s = (.ok values, t)) :
      DumpEnds width s registers registers false (.ok (shown registers values), t)
  /-- The first read that fails raises an exception, and it is cleared. -/
  | cut {before after : List (String × RegisterNumber)} {r : String × RegisterNumber} {values : List Value}
      {t u v : Session τ} (split : registers = before ++ r :: after)
      (answered : (readEach width before).exec s = (.ok values, t))
      (raised : (readRegister r.1 width).exec t = (.error (.command .exception), u))
      (cleared : clearCommandError.exec u = (.ok (), v)) :
      DumpEnds width s registers (before ++ [r]) true (.ok (shown before values ++ hidden (r :: after)), v)
  /-- The first read that fails raises an exception, and it cannot be cleared. -/
  | uncleared {before after : List (String × RegisterNumber)} {r : String × RegisterNumber}
      {values : List Value} {t u v : Session τ} {e : DebugError} (split : registers = before ++ r :: after)
      (answered : (readEach width before).exec s = (.ok values, t))
      (raised : (readRegister r.1 width).exec t = (.error (.command .exception), u))
      (uncleared : clearCommandError.exec u = (.error e, v)) :
      DumpEnds width s registers (before ++ [r]) true (.error e, v)
  /-- The first read that fails raises no exception. -/
  | failed {before after : List (String × RegisterNumber)} {r : String × RegisterNumber} {values : List Value}
      {t u : Session τ} {e : DebugError} (split : registers = before ++ r :: after)
      (answered : (readEach width before).exec s = (.ok values, t))
      (failed : (readRegister r.1 width).exec t = (.error e, u)) (other : e ≠ .command .exception) :
      DumpEnds width s registers (before ++ [r]) false (.error e, u)

variable {width : Option TransferWidth} {s t : Session τ} {registers asked : List (String × RegisterNumber)}
  {r : String × RegisterNumber} {cleared : Bool}

theorem readEach_cons_eq_ok {value : Value} {values : List Value} {u : Session τ}
    (first : (readRegister r.1 width).exec s = (.ok value, t))
    (rest : (readEach width registers).exec t = (.ok values, u)) :
    (readEach width (r :: registers)).exec s = (.ok (value :: values), u) := by
  have others : (registers.mapM fun r => readRegister r.1 width).exec t = (.ok values, u) := rest
  rw [readEach, Action.mapM_cons, Action.exec_bind_ok first, Action.exec_bind_ok others]
  rfl

/-- A register that is read before goes before whatever the dump shows. -/
theorem DumpEnds.cons {value : Value} (first : (readRegister r.1 width).exec s = (.ok value, t))
    {ran : Except DebugError (List (String × Option Value)) × Session τ}
    (rest : DumpEnds width t registers asked cleared ran) :
    DumpEnds width s (r :: registers) (r :: asked) cleared (ran.1.map ((r.1, some value) :: ·), ran.2) := by
  cases rest with
  | complete answered => exact .complete (readEach_cons_eq_ok first answered)
  | cut split answered raised cleared =>
    subst split
    exact .cut rfl (readEach_cons_eq_ok first answered) raised cleared
  | uncleared split answered raised uncleared =>
    subst split
    exact .uncleared rfl (readEach_cons_eq_ok first answered) raised uncleared
  | failed split answered failed other =>
    subst split
    exact .failed rfl (readEach_cons_eq_ok first answered) failed other

variable {group : RegisterGroup} {names : List String} {name : String}

/-- A register that is read is shown before the others. -/
theorem exec_dumpNames_of_read {value : Value} (read : (readRegister name width).exec s = (.ok value, t)) :
    (dumpNames group width (name :: names)).exec s =
      (((dumpNames group width names).exec t).1.map ((name, some value) :: ·),
        ((dumpNames group width names).exec t).2) := by
  rw [dumpNames, Action.exec_bind_ok (Action.exec_attempt _ s), read]
  dsimp only
  rw [Action.exec_bind]
  rcases (dumpNames group width names).exec t with ⟨_ | others, u⟩ <;> rfl

/-- An exception is cleared, and nothing more is read. -/
theorem exec_dumpNames_of_exception
    (raised : (readRegister name width).exec s = (.error (.command .exception), t)) :
    (dumpNames group width (name :: names)).exec s =
      ((clearCommandError.exec t).1.map fun _ => (name :: names).map fun n => (n, none),
        (clearCommandError.exec t).2) := by
  rw [dumpNames, Action.exec_bind_ok (Action.exec_attempt _ s), raised]
  dsimp only
  rw [Action.exec_bind_ok (Action.exec_log _ _ _ t), Action.exec_bind]
  rcases clearCommandError.exec t with ⟨_ | _, u⟩ <;> rfl

/-- Any other error ends the dump as it is. -/
theorem exec_dumpNames_of_failed {e : DebugError} (failed : (readRegister name width).exec s = (.error e, t))
    (other : e ≠ .command .exception) : (dumpNames group width (name :: names)).exec s = (.error e, t) := by
  rw [dumpNames, Action.exec_bind_ok (Action.exec_attempt _ s), failed]
  cases e with
  | command raised => cases raised <;> first | exact absurd rfl other | rfl
  | _ => rfl

/-- **Every dump goes in one of these ways.**  The induction is on the registers; one that is read goes before
what the dump of the others shows. -/
theorem dumpEnds_dumpNames (group : RegisterGroup) (width : Option TransferWidth)
    (registers : List (String × RegisterNumber)) (s : Session τ) :
    ∃ asked cleared, DumpEnds width s registers asked cleared
      ((dumpNames group width (registers.map (·.1))).exec s) := by
  induction registers generalizing s with
  | nil => exact ⟨[], false, .complete rfl⟩
  | cons r rest ih =>
    have none_before : (readEach width []).exec s = (.ok [], s) := rfl
    rw [List.map_cons]
    rcases read : (readRegister r.1 width).exec s with ⟨e | value, t⟩
    · by_cases exception : e = .command .exception
      · subst exception
        rw [exec_dumpNames_of_exception read]
        refine ⟨[r], true, ?_⟩
        rcases clearing : clearCommandError.exec t with ⟨e | _, u⟩
        · exact .uncleared rfl none_before read clearing
        · have ended : DumpEnds width s (r :: rest) [r] true (.ok ([] ++ hidden (r :: rest)), u) :=
            .cut rfl none_before read clearing
          rw [hidden, List.map_cons] at ended
          rw [Except.map, List.map_cons, List.map_map]
          exact ended
      · rw [exec_dumpNames_of_failed read exception]
        exact ⟨[r], false, .failed rfl none_before read exception⟩
    · obtain ⟨asked, cleared, further⟩ := ih t
      rw [exec_dumpNames_of_read read]
      exact ⟨r :: asked, cleared, further.cons read⟩

theorem map_fst_shown {values : List Value} (same : values.length = registers.length) :
    (shown registers values).map (·.1) = registers.map (·.1) := by
  rw [shown, List.map_fst_zip]
  rw [List.length_map, List.length_map, same]

/-- A dump that succeeds lists the registers in order. -/
theorem DumpEnds.map_fst {ran : Except DebugError (List (String × Option Value)) × Session τ}
    (ended : DumpEnds width s registers asked cleared ran) {entries : List (String × Option Value)}
    (succeeds : ran.1 = .ok entries) : entries.map (·.1) = registers.map (·.1) := by
  cases ended with
  | complete answered =>
    obtain rfl := Except.ok.inj succeeds
    exact map_fst_shown (Action.length_of_exec_mapM answered)
  | cut split answered raised cleared =>
    obtain rfl := Except.ok.inj succeeds
    rw [split, List.map_append, map_fst_shown (Action.length_of_exec_mapM answered), hidden, List.map_map,
      List.map_append]
    rfl
  | uncleared split answered raised uncleared => cases succeeds
  | failed split answered failed other => cases succeeds

end Ways

/-! ### What is written on the way -/

/-- From one session under trace to another there have been these writes, and reads.  The width of accesses is as
it was. -/
structure Wrote (writes : List (BusAddress × Word)) (s t : Session (Traced τ)) : Prop where
  calls : ∃ calls, t.transport.calls = s.transport.calls ++ calls ∧ TransportCall.Writing calls writes
  width : t.width = s.width

variable {writes writes' : List (BusAddress × Word)} {s t u : Session (Traced τ)}

theorem Wrote.trans (first : Wrote writes s t) (second : Wrote writes' t u) : Wrote (writes ++ writes') s u := by
  obtain ⟨calls, listed, writing⟩ := first.calls
  obtain ⟨calls', listed', writing'⟩ := second.calls
  refine ⟨⟨calls ++ calls', ?_, writing.append writing'⟩, second.width.trans first.width⟩
  rw [listed', listed, List.append_assoc]

/-- Reading adds up. -/
theorem isTravel_wrote : IsTravel (Wrote (τ := τ) []) where
  refl _ := ⟨⟨[], (List.append_nil _).symm, .none⟩, rfl⟩
  trans first second := first.trans second

/-- What only reads after an action writes no more than the action. -/
theorem moves_wrote_bind {x : Action DebugError (Session (Traced τ)) α}
    {f : α → Action DebugError (Session (Traced τ)) β} (first : Moves (Wrote writes) x)
    (second : ∀ a, Moves (Wrote []) (f a)) : Moves (Wrote writes) (x >>= f) := by
  intro s
  have moved := first s
  rw [Action.exec_bind]
  generalize x.exec s = ran at moved
  obtain ⟨e | a, t⟩ := ran
  · exact moved
  · have whole := moved.trans (second a t)
    rw [List.append_nil] at whole
    exact whole

variable [Transport τ]

theorem wrote_writeDmi (address : BusAddress) (data : Word) :
    Moves (Wrote [(address, data)]) (writeDmi (τ := Traced τ) address data) :=
  fun _ => ⟨⟨[.write address data], rfl, .write .none⟩, rfl⟩

theorem wrote_readDmi (address : BusAddress) : Moves (Wrote []) (readDmi (τ := Traced τ) address) := by
  intro s
  rw [exec_readDmi_of_read]
  exact ⟨⟨[.read address], rfl, .read .none⟩, rfl⟩

/-- A poll makes its looks and nothing else. -/
theorem wrote_pollAbstractcs : Moves (Wrote []) (pollAbstractcs (τ := Traced τ)) := by
  intro s
  obtain ⟨k, ends⟩ := exists_endsAt_readings s
  obtain ⟨timer, polled⟩ := exec_pollAbstractcs_of_endsAt (monotone_readings s) ends fun _ _ => rfl
  rw [polled]
  refine ⟨⟨List.replicate (k + 1) (.read .abstractcs), ?_, TransportCall.writing_replicate_read _ _⟩, rfl⟩
  rw [Traced.afterLooks_eq]

section Live

variable (live : ∀ t : τ, Bus.isLive t = true)
include live

theorem isLive_traced (s : Session (Traced τ)) : s.isLive = true :=
  live s.transport.transport

theorem wrote_waitForCommand : Moves (Wrote []) (waitForCommand (τ := Traced τ)) := by
  intro s
  rw [waitForCommand, Action.exec_bind_ok (Action.exec_get s), if_pos (isLive_traced live s)]
  refine wrote_pollAbstractcs.bind isTravel_wrote (fun abstractcs => ?_) s
  split
  · exact .pure isTravel_wrote ()
  · exact .throw isTravel_wrote _

theorem wrote_clearCommandError :
    Moves (Wrote [(.abstractcs, Abstractcs.cmderr.mask)]) (clearCommandError (τ := Traced τ)) := by
  refine moves_wrote_bind (wrote_writeDmi _ _) fun _ s => ?_
  rw [Action.exec_bind_ok (Action.exec_get s), if_pos (isLive_traced live s)]
  refine wrote_pollAbstractcs.bind isTravel_wrote (fun abstractcs => ?_) s
  split
  · exact .pure isTravel_wrote ()
  · exact (Moves.log isTravel_wrote _ _ _).bind isTravel_wrote fun _ => .throw isTravel_wrote _

/-- The command that copies a register out of the hart, as it is written. -/
def copyOut (r : String × RegisterNumber) (width : TransferWidth) : BusAddress × Word :=
  (.command, AccessRegister.move r.2 width false)

variable {width : Option TransferWidth} {registers asked : List (String × RegisterNumber)}
  {r : String × RegisterNumber} {cleared : Bool}

/-- **A read writes its command**, however it ends. -/
theorem wrote_readRegister (known : Catalog.standard.resolve r.1 = .ok ⟨r.1, r.2, none⟩)
    (width : Option TransferWidth) (s : Session (Traced τ)) :
    Wrote [copyOut r (width.getD s.width)] s ((readRegister r.1 width).exec s).2 := by
  rw [exec_readRegister_of_located (isLive_traced live s) (locate_of_plain known s width)]
  refine moves_wrote_bind (moves_wrote_bind (wrote_writeDmi _ _) fun _ => wrote_waitForCommand live)
    (fun _ => ?_) s
  exact (Moves.mapM isTravel_wrote fun _ _ => wrote_readDmi _).map isTravel_wrote _

/-- Reads one after another write their commands in order. -/
theorem wrote_readEach (known : ∀ r ∈ registers, Catalog.standard.resolve r.1 = .ok ⟨r.1, r.2, none⟩)
    {values : List Value} (answered : (readEach width registers).exec s = (.ok values, t)) :
    Wrote (registers.map fun r => copyOut r (width.getD s.width)) s t := by
  induction registers generalizing s values with
  | nil =>
    obtain ⟨-, rfl⟩ := Prod.mk.inj answered
    exact isTravel_wrote.refl s
  | cons r rest ih =>
    rw [readEach, Action.mapM_cons] at answered
    obtain ⟨value, s', read, further⟩ := Action.exec_bind_eq_ok answered
    obtain ⟨others, s'', answered', done⟩ := Action.exec_bind_eq_ok further
    obtain ⟨-, rfl⟩ := Prod.mk.inj done
    have first := wrote_readRegister live (known r List.mem_cons_self) width s
    rw [read] at first
    have others := ih (fun r' mem => known r' (List.mem_cons_of_mem _ mem)) answered'
    rw [first.width] at others
    exact first.trans others

/-- **A dump gives a command for each register that it asks for**, in order, and for none after these; an
exception is cleared once, after the last of them. -/
theorem wrote_of_dumpEnds (known : ∀ r ∈ registers, Catalog.standard.resolve r.1 = .ok ⟨r.1, r.2, none⟩)
    {ran : Except DebugError (List (String × Option Value)) × Session (Traced τ)}
    (ended : DumpEnds width s registers asked cleared ran) :
    Wrote (asked.map (fun r => copyOut r (width.getD s.width)) ++
      if cleared then [(.abstractcs, Abstractcs.cmderr.mask)] else []) s ran.2 := by
  -- However a dump goes, it has read what comes before the last register asked for, and then that one.
  have asking {before after : List (String × RegisterNumber)} {r : String × RegisterNumber}
      {values : List Value} {t u : Session (Traced τ)} {outcome : Except DebugError Value}
      (split : registers = before ++ r :: after) (answered : (readEach width before).exec s = (.ok values, t))
      (read : (readRegister r.1 width).exec t = (outcome, u)) :
      Wrote ((before ++ [r]).map fun r => copyOut r (width.getD s.width)) s u := by
    rw [split] at known
    have reads := wrote_readEach live (fun r' mem => known r' (List.mem_append_left _ mem)) answered
    have last := wrote_readRegister live (known r (by simp)) width t
    rw [reads.width, read] at last
    rw [List.map_append]
    exact reads.trans last
  have clears := wrote_clearCommandError live
  cases ended with
  | complete answered =>
    rw [if_neg Bool.false_ne_true, List.append_nil]
    exact wrote_readEach live known answered
  | cut split answered raised cleared => exact (asking split answered raised).trans (clears.of_exec cleared)
  | uncleared split answered raised uncleared =>
    exact (asking split answered raised).trans (clears.of_exec uncleared)
  | failed split answered failed other =>
    rw [if_neg Bool.false_ne_true, List.append_nil]
    exact asking split answered failed

end Live

/-! ### Dumps of a group -/

/-- What a dump of a group does, with and without a trace. -/
structure DumpsInOrder (s : Session τ) (group : RegisterGroup) (width : Option TransferWidth) : Prop where
  /-- The trace by which the calls are known makes no difference. -/
  outcome : ((dumpRegisters group width).exec s.traced).1 = ((dumpRegisters group width).exec s).1
  transport : ((dumpRegisters group width).exec s.traced).2.transport.transport =
    ((dumpRegisters group width).exec s).2.transport
  /-- A dump that succeeds lists the names of the group in order. -/
  names : ∀ entries, ((dumpRegisters group width).exec s).1 = .ok entries →
    entries.map (·.1) = group.members
  /-- It goes in one of four ways. -/
  ended : ∃ asked cleared,
    DumpEnds width s group.registers asked cleared ((dumpRegisters group width).exec s)
  /-- Under trace it ends in the very state that its last read has left, or the clearing of an exception.  What it
  has written until then is a command for each register asked for, and that an exception be cleared. -/
  traced : ∃ asked cleared,
    DumpEnds width s.traced group.registers asked cleared ((dumpRegisters group width).exec s.traced) ∧
    TransportCall.Writing ((dumpRegisters group width).exec s.traced).2.transport.calls
      (asked.map (fun r => (.command, AccessRegister.move r.2 (width.getD s.width) false)) ++
        if cleared then [(.abstractcs, Abstractcs.cmderr.mask)] else [])

/-- **What every dump of a group does**, on every transport that reads values back. -/
theorem dumpRegisters_in_order (live : ∀ t : τ, Bus.isLive t = true) (s : Session τ) (group : RegisterGroup)
    (width : Option TransferWidth) : DumpsInOrder s group width := by
  obtain ⟨same, alike⟩ := simulates_dumpNames agree_traced group width group.members s.traced s (alike_traced s)
  have ways {σ : Type} [Transport σ] (s : Session σ) : ∃ asked cleared,
      DumpEnds width s group.registers asked cleared ((dumpRegisters group width).exec s) := by
    rw [dumpRegisters, ← Catalog.map_fst_registers]
    exact dumpEnds_dumpNames group width group.registers s
  refine ⟨same, alike.transport, fun entries succeeds => ?_, ways s, ?_⟩
  · obtain ⟨asked, cleared, ended⟩ := ways s
    rw [ended.map_fst succeeds, Catalog.map_fst_registers]
  · obtain ⟨asked, cleared, ended⟩ := ways s.traced
    obtain ⟨calls, listed, writing⟩ :=
      (wrote_of_dumpEnds live (fun _ mem => Catalog.resolve_of_mem_registers mem) ended).calls
    obtain rfl := listed
    exact ⟨asked, cleared, ended, writing⟩

/-- A module without the last of the integer registers. -/
theorem dumpRegisters_in_order_without_last :
    let m : SimulatedModule := { connected := true, unimplemented := [0x101f] }
    let s : Session SimulatedModule := .fresh m {} { clock := .steady 1 (by decide) }
    (∀ t : SimulatedModule, Bus.isLive t = true) ∧ DumpsInOrder s .integer none :=
  ⟨fun _ => rfl, dumpRegisters_in_order (fun _ => rfl) _ _ _⟩

end Session

end HartDebug
