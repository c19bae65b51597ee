import HartDebug.Proofs.Session.Calls
import HartDebug.Proofs.Session.Footprint
import HartDebug.Proofs.Session.Polling
import HartDebug.Session.ProgramBuffer

/-!
# Loading programs

A program is loaded word by word, from the first word of the program buffer on.  One that is longer than the buffer
can be is refused as a whole before the first word; the bound is also what keeps the addresses from wrapping.

* `TransportCall.CarriedOut` — how far a plan of calls gets on a transport;
* `Session.loadCalls` — the calls that load a program;
* `Session.carriedOut_loadProgram` — **a program is written in order**, up to the first write that fails;
* `Session.exec_loadFrom_module` — what becomes of the program buffer of a module;
* `Session.loadProgram_within_limit` — what loading does, on every transport and on a module.
-/

namespace HartDebug

open TransportCall (Made)

variable {τ α : Type} [Transport τ]

namespace TransportCall

/-- How far a plan of calls gets on a transport: all of them are answered, or one fails after those before it have
been answered, and it is the last. -/
inductive CarriedOut (plan : List TransportCall) (t : τ) :
    Except DebugError Unit → List TransportCall → τ → Prop where
  | complete {t' : τ} (made : Made t plan none t') : CarriedOut plan t (.ok ()) plan t'
  | stopped {before after : List TransportCall} {call : TransportCall} {u t' : τ} {e : DebugError}
      (split : plan = before ++ call :: after) (made : Made t before none u)
      (fails : call.perform.exec u = (.error e, t')) : CarriedOut plan t (.error e) (before ++ [call]) t'

/-- Of calls that have failed the last one has, and those before it have been answered. -/
theorem Made.last_failed {t t' : τ} {calls : List TransportCall} {e : DebugError}
    (made : Made t calls (some e) t') :
    ∃ before call u, calls = before ++ [call] ∧ Made t before Option.none u ∧
      call.perform.exec u = (.error e, t') := by
  generalize failure : some e = failed at made
  induction made with
  | none => cases failure
  | answered here _ ih =>
    obtain ⟨before, call, u, rfl, made, fails⟩ := ih failure
    exact ⟨_ :: before, call, u, rfl, .answered here made, fails⟩
  | failed here =>
    cases failure
    exact ⟨[], _, _, rfl, .none, here⟩

end TransportCall

open TransportCall (CarriedOut)

namespace Session

/-- What conducts a plan carries it out. -/
theorem Conducts.carriedOut {plan : List TransportCall} {x : Action DebugError (Session (Traced τ)) Unit}
    (conducts : Conducts plan x) (s : Session τ) :
    CarriedOut plan s.transport (x.exec s.traced).1 (x.exec s.traced).2.transport.calls
      (x.exec s.traced).2.transport.transport := by
  have ended := conducts s.traced
  generalize x.exec s.traced = ran at ended
  obtain ⟨e | _, t⟩ := ran
  · obtain ⟨calls, ⟨rest, whole⟩, makes⟩ := ended
    obtain ⟨before, call, u, rfl, made, fails⟩ := makes.made.last_failed
    have split : plan = before ++ call :: rest := by
      rw [← whole, List.append_assoc]
      rfl
    rw [show t.transport.calls = before ++ [call] from makes.listed]
    exact .stopped split made fails
  · rw [show t.transport.calls = plan from ended.listed]
    exact .complete ended.made

/-! ### The calls that load a program -/

/-- The calls that write words into the program buffer from its `i`-th word on. -/
def loadCallsFrom (i : Nat) (program : List Word) : List TransportCall :=
  program.mapIdx fun offset word => .write (.progbuf (i + offset)) word

theorem loadCallsFrom_cons (i : Nat) (word : Word) (rest : List Word) :
    loadCallsFrom i (word :: rest) = .write (.progbuf i) word :: loadCallsFrom (i + 1) rest := by
  rw [loadCallsFrom, List.mapIdx_cons, loadCallsFrom]
  simp only [Nat.add_zero, Nat.add_assoc, Nat.add_comm 1]

/-- Words are written one after another.  The induction is on the words. -/
theorem conducts_loadFrom (i : Nat) (program : List Word) :
    Conducts (loadCallsFrom i program) (loadFrom (τ := Traced τ) i program) := by
  induction program generalizing i with
  | nil => exact conducts_pure ()
  | cons word rest ih =>
    rw [loadCallsFrom_cons]
    exact (conducts_log _ _ _).bind fun _ => (conducts_writeDmi _ _).bind fun _ => ih (i + 1)

variable {s : Session τ} {program : List Word}

/-- A program that is too long is refused before anything is done. -/
theorem exec_loadProgram_refused (long : s.programLimit < program.length) :
    (loadProgram program).exec s = (.error (.programTooLarge program.length s.programLimit), s) := by
  rw [loadProgram, Action.exec_bind_ok (Action.exec_get s)]
  dsimp only
  rw [if_pos long, exec_failLogged]

/-- Any other program is written from the first word of the buffer on. -/
theorem exec_loadProgram (fits : program.length ≤ s.programLimit) :
    (loadProgram program).exec s = (loadFrom 0 program).exec s := by
  rw [loadProgram, Action.exec_bind_ok (Action.exec_get s)]
  dsimp only
  rw [if_neg (Nat.not_lt.2 fits), Action.exec_bind_ok (Action.exec_log _ _ _ s)]

/-- **A program that fits is written in order**, up to the first write that fails. -/
theorem carriedOut_loadProgram (fits : program.length ≤ s.programLimit) :
    CarriedOut (loadCallsFrom 0 program) s.transport ((loadProgram program).exec s.traced).1
      ((loadProgram program).exec s.traced).2.transport.calls
      ((loadProgram program).exec s.traced).2.transport.transport := by
  rw [exec_loadProgram (s := s.traced) fits]
  exact (conducts_loadFrom 0 program).carriedOut s

/-- The size that a debug module reports is taken over. -/
theorem exec_discoverProgbufSize {w : Word} {t : τ}
    (answered : (Bus.read .abstractcs).exec s.transport = (.ok w, t)) :
    discoverProgbufSize.exec s = (.ok (Abstractcs.progbufsize.get w),
      { s with transport := t, progbufCapacity := some (Abstractcs.progbufsize.get w) }) := by
  have read : (readDmi .abstractcs).exec s = (.ok w, s.withTransport t) := by
    rw [exec_readDmi_of_read, answered]
  rw [discoverProgbufSize, Action.exec_bind_ok read]
  rfl

/-! ### The program buffer of a module -/

end Session

namespace SimulatedModule

/-- The module with words in its program buffer from the `i`-th on. -/
def loaded (m : SimulatedModule) (i : Nat) (program : List Word) : SimulatedModule :=
  { m with progbuf := m.progbuf.mapFinIdx fun j w _ => if i ≤ j then program.getD (j - i) w else w }

theorem loaded_nil (m : SimulatedModule) (i : Nat) : m.loaded i [] = m := by
  have same : (m.progbuf.mapFinIdx fun j w _ => if i ≤ j then ([] : List Word).getD (j - i) w else w) =
      m.progbuf := by
    apply Vector.ext
    intro j inside
    simp
  rw [loaded, same]

theorem progbufSlot?_progbuf (i : Fin 16) : progbufSlot? (.progbuf i) = some i := by
  revert i
  decide

theorem writeBus_progbuf (m : SimulatedModule) {i : Nat} (inside : i < 16) (w : Word) :
    m.writeBus (.progbuf i) w = { m with progbuf := m.progbuf.set i w inside } := by
  have other : ∀ i : Fin 16, BusAddress.progbuf i ≠ .dmcontrol ∧ BusAddress.progbuf i ≠ .abstractcs ∧
      BusAddress.progbuf i ≠ .command ∧ dataSlot? (.progbuf i) = none := by decide
  obtain ⟨not_control, not_status, not_command, no_operand⟩ := other ⟨i, inside⟩
  rw [writeBus, if_neg not_control, if_neg not_status, if_neg not_command, no_operand,
    progbufSlot?_progbuf ⟨i, inside⟩]

/-- The next word goes where it belongs. -/
theorem loaded_cons (m : SimulatedModule) {i : Nat} (inside : i < 16) (w : Word) (rest : List Word) :
    (m.writeBus (.progbuf i) w).loaded (i + 1) rest = m.loaded i (w :: rest) := by
  rw [writeBus_progbuf m inside, loaded, loaded]
  dsimp only
  congr 1
  apply Vector.ext
  intro j below
  rw [Vector.getElem_mapFinIdx, Vector.getElem_mapFinIdx, Vector.getElem_set]
  rcases Nat.lt_trichotomy j i with before | rfl | after
  · rw [if_neg (by omega), if_neg (by omega), if_neg (by omega)]
  · rw [if_neg (by omega), if_pos rfl, if_pos (Nat.le_refl _), Nat.sub_self, List.getD_cons_zero]
  · rw [if_pos (by omega), if_neg (by omega), if_pos (by omega), show j - i = j - (i + 1) + 1 by omega,
      List.getD_cons_succ]

/-- The first words of the buffer are the program, and the others are as they were. -/
theorem getElem_loaded (m : SimulatedModule) (program : List Word) (i : Nat) (inside : i < 16) :
    (m.loaded 0 program).progbuf[i] = if h : i < program.length then program[i] else m.progbuf[i] := by
  show (m.progbuf.mapFinIdx fun j w _ => if 0 ≤ j then program.getD (j - 0) w else w)[i] = _
  rw [Vector.getElem_mapFinIdx, if_pos (Nat.zero_le i), Nat.sub_zero]
  split
  · next h => rw [List.getD_eq_getElem?_getD, List.getElem?_eq_getElem h, Option.getD_some]
  · next h => rw [List.getD_eq_getElem?_getD, List.getElem?_eq_none (Nat.not_lt.1 h), Option.getD_none]

end SimulatedModule

namespace Session

/-- **Words that fit are loaded.**  The induction is on the words. -/
theorem exec_loadFrom_module {s : Session SimulatedModule} (connected : s.transport.connected = true)
    {program : List Word} {i : Nat} (room : i + program.length ≤ 16) :
    (loadFrom i program).exec s = (.ok (), s.withTransport (s.transport.loaded i program)) := by
  induction program generalizing s i with
  | nil =>
    rw [SimulatedModule.loaded_nil]
    rfl
  | cons w rest ih =>
    rw [List.length_cons] at room
    have same := SimulatedModule.setUpAlike_writeBus s.transport (.progbuf i) w
    have further := ih (s := s.withTransport (s.transport.writeBus (.progbuf i) w))
      (same.connected.trans connected) (i := i + 1) (by omega)
    rw [loadFrom, Action.exec_bind_ok (Action.exec_log _ _ _ s),
      Action.exec_bind_ok (exec_writeDmi connected _ _), further,
      ← SimulatedModule.loaded_cons s.transport (by omega) w rest]
    rfl

/-! ### Whole programs -/

/-- What loading a program does on a session. -/
structure LoadsWithin (s : Session τ) (program : List Word) : Prop where
  /-- The trace by which the calls are known makes no difference. -/
  outcome : ((loadProgram program).exec s.traced).1 = ((loadProgram program).exec s).1
  transport : ((loadProgram program).exec s.traced).2.transport.transport =
    ((loadProgram program).exec s).2.transport
  /-- A program is refused exactly if it is longer than the limit, and then nothing at all is done. -/
  refused : (loadProgram program).exec s.traced =
      (.error (.programTooLarge program.length (min (s.progbufCapacity.getD 16) 16)), s.traced) ↔
    min (s.progbufCapacity.getD 16) 16 < program.length
  /-- Any other program is written word by word, up to the first write that fails, and is done if none does. -/
  carriedOut : program.length ≤ min (s.progbufCapacity.getD 16) 16 →
    CarriedOut (program.mapIdx fun i word => .write (.progbuf i) word) s.transport
      ((loadProgram program).exec s).1 ((loadProgram program).exec s.traced).2.transport.calls
      ((loadProgram program).exec s).2.transport
  /-- The addresses of its words are sums that do not wrap. -/
  addresses : program.length ≤ min (s.progbufCapacity.getD 16) 16 →
    ∀ i < program.length, (BusAddress.progbuf i).toNat = 0x20 + i
  /-- The capacity can be the five bits of any answer of the debug module. -/
  discovered : ∀ w t, (Bus.read .abstractcs).exec s.transport = (.ok w, t) →
    discoverProgbufSize.exec s = (.ok (w.toNat / 2 ^ 24 % 2 ^ 5),
      { s with transport := t, progbufCapacity := some (w.toNat / 2 ^ 24 % 2 ^ 5) })

theorem loadsWithin (s : Session τ) (program : List Word) : s.LoadsWithin program := by
  obtain ⟨same, alike⟩ := simulates_loadProgram agree_traced program s.traced s (alike_traced s)
  have carried (fits : program.length ≤ s.programLimit) := carriedOut_loadProgram fits
  constructor
  case outcome => exact same
  case transport => exact alike.transport
  case refused =>
    refine ⟨fun refused => Nat.lt_of_not_le fun fits => ?_,
      fun long => exec_loadProgram_refused (s := s.traced) long⟩
    -- A program that fits ends well, or after a call.
    have ended := carried fits
    rw [refused] at ended
    generalize called : s.traced.transport.calls = calls at ended
    cases ended with
    | stopped split made fails => exact absurd called.symm (List.append_ne_nil_of_right_ne_nil _ (by simp))
  case carriedOut =>
    intro fits
    have ended := carried fits
    rw [same, alike.transport, loadCallsFrom] at ended
    simp only [Nat.zero_add] at ended
    exact ended
  case addresses =>
    intro fits i inside
    exact BusAddress.toNat_progbuf_eq (by omega)
  case discovered =>
    intro w t answered
    have size : Abstractcs.progbufsize.get w = w.toNat / 2 ^ 24 % 2 ^ 5 := by
      rw [BitField.get, BitVec.extractLsb'_toNat, Nat.shiftRight_eq_div_pow]
      rfl
    rw [exec_discoverProgbufSize answered, size]

/-- **Loading a program is bounded, and all or nothing in its check**: on every transport a program is refused if it
is longer than the limit, and otherwise written in order as far as the writes get through.  On a module nothing
changes but the program buffer: its first words become the program if loading succeeds, as it does on a connected
module if the program fits, and the others stay. -/
theorem loadProgram_within_limit :
    (∀ {τ : Type} [Transport τ] (s : Session τ) (program : List Word), s.LoadsWithin program) ∧
    ∀ (s : Session SimulatedModule) (program : List Word), ∃ buffer : Vector Word 16,
      ((loadProgram program).exec s).2 = s.withTransport { s.transport with progbuf := buffer } ∧
      (((loadProgram program).exec s).1 = .ok () → ∀ i (inside : i < 16),
        buffer[i] = if h : i < program.length then program[i] else s.transport.progbuf[i]) ∧
      (s.transport.connected = true → program.length ≤ min (s.progbufCapacity.getD 16) 16 →
        ((loadProgram program).exec s).1 = .ok ()) := by
  refine ⟨loadsWithin, fun s program => ?_⟩
  rcases Nat.lt_or_ge s.programLimit program.length with long | fits
  · rw [exec_loadProgram_refused long]
    exact ⟨s.transport.progbuf, rfl, nofun, fun _ fits => absurd fits (Nat.not_le.2 long)⟩
  rw [exec_loadProgram fits]
  have room : 0 + program.length ≤ 16 := by
    have most : s.programLimit ≤ 16 := Nat.min_le_right _ _
    omega
  cases connected : s.transport.connected with
  | true =>
    rw [exec_loadFrom_module connected room]
    exact ⟨_, rfl, fun _ => s.transport.getElem_loaded program, fun _ _ => rfl⟩
  | false =>
    cases program with
    | nil => exact ⟨s.transport.progbuf, rfl, fun _ _ _ => rfl, fun _ _ => rfl⟩
    | cons w rest =>
      rw [loadFrom, Action.exec_bind_ok (Action.exec_log _ _ _ s),
        Action.exec_bind_error (exec_writeDmi_refused connected _ _)]
      exact ⟨s.transport.progbuf, rfl, nofun, nofun⟩

/-- A module whose buffer holds two words takes a program of two, and none of three. -/
theorem loadProgram_within_limit_of_two :
    let m : SimulatedModule := { connected := true, progbufsize := 2 }
    let s : Session SimulatedModule := .fresh m { progbufCapacity := some 2 } { clock := .steady 1 (by decide) }
    (loadProgram [0x13, 0x13, 0x00100073]).exec s.traced = (.error (.programTooLarge 3 2), s.traced) ∧
    ((loadProgram [0x13, 0x00100073]).exec s).1 = .ok () ∧
    ((loadProgram [0x13, 0x00100073]).exec s).2.transport.progbuf[0] = 0x13 ∧
    ((loadProgram [0x13, 0x00100073]).exec s).2.transport.progbuf[1] = 0x00100073 := by
  intro m s
  obtain ⟨buffer, state, shows, succeeds⟩ := loadProgram_within_limit.2 s [0x13, 0x00100073]
  have loaded := succeeds rfl (by decide)
  rw [state]
  exact ⟨(loadProgram_within_limit.1 s _).refused.2 (by decide), loaded, shows loaded 0 (by decide),
    shows loaded 1 (by decide)⟩

end Session

end HartDebug
