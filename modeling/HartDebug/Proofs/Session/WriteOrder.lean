import HartDebug.Proofs.Session.Calls
import HartDebug.Proofs.Session.Places
import HartDebug.Proofs.Session.Polling
import HartDebug.Proofs.Target.Commands

/-!
# What a register write does on the bus

A write of a register carries the value over word by word, asks for it to be moved into the hart, and waits
for that.  A value without a place is refused before anything is done, and the first access that fails is the
last one: no command is ever given for a value that was not carried over whole.

* `AccessRegister.IsWrite` — the command word that moves a value into a register;
* `Session.Awaits`, `Session.makes_waitForCommand` — **the calls with which a command is waited for**;
* `Session.writeCalls`, `Session.Written` — the calls of a write, as far as they have been made;
* `Session.written_moveIn` — **a write makes its calls in order** and stops at the first that fails;
* `Session.writeRegister_in_order` — what every write of a register does, on every transport.
-/

namespace HartDebug

namespace AccessRegister

/-- The word asks for a value of some bits to be moved into a register, and for nothing else. -/
structure IsWrite (word : Word) (number : RegisterNumber) (bits : Nat) : Prop where
  transfer : transfer.isSet word = true
  write : write.isSet word = true
  size : aarsize.get word = Nat.log2 (bits / 8)
  type : cmdtype.get word = 0
  number : regno.get word = number.toNat
  postexec : postexec.isSet word = false
  increment : aarpostincrement.isSet word = false

theorem isWrite_move (number : RegisterNumber) (width : TransferWidth) :
    IsWrite (move number width true) number width.bits where
  transfer := isSet_transfer_move number width true
  write := isSet_write_move number width true
  size := by
    rw [aarsize_move]
    cases width <;> decide
  type := by
    rw [move, BitField.get_set_of_apart (by decide), BitField.get_setFlag_of_apart (by decide),
      BitField.get_set_of_apart (by decide), BitField.get_setFlag_of_apart (by decide)]
    decide
  number := by
    rw [move, BitField.get_set]
    exact Nat.mod_eq_of_lt number.isLt
  postexec := isSet_postexec_move number width true
  increment := by
    rw [move, BitField.isSet_set_of_apart (by decide), BitField.isSet_setFlag_of_apart (by decide),
      BitField.isSet_set_of_apart (by decide), BitField.isSet_setFlag_of_apart (by decide)]
    decide

end AccessRegister

namespace Session

open Action (Moves)
open TransportCall (Made)

variable {τ : Type} [Transport τ]

/-! ### Waiting for a command -/

/-- The calls with which a command is waited for: looks where values are read back, and otherwise a pause and,
unless that has failed, an expectation. -/
inductive Awaits (cycles : Nat) : Bool → List TransportCall → Option DebugError → Prop where
  | looks {k : Nat} {failure : Option DebugError} :
      Awaits cycles true (List.replicate (k + 1) (.read .abstractcs)) failure
  | pause {e : DebugError} : Awaits cycles false [.idle cycles] (some e)
  | expectation {failure : Option DebugError} :
      Awaits cycles false [.idle cycles, .expect .abstractcs 0 Abstractcs.unfinished] failure

omit [Transport τ] in
theorem still_failLogged {α : Type} (source : Source) (e : DebugError) :
    Moves Still (failLogged source e : Action DebugError (Session (Traced τ)) α) := by
  intro s
  rw [exec_failLogged]
  exact isTravel_still.refl s

theorem makes_pollOnce (deadline : Nat) (s : Session (Traced τ)) :
    ∃ failure, Makes s [.read .abstractcs] failure ((pollOnce deadline).exec s) := by
  obtain ⟨failure, read⟩ := (conducts_readDmi .abstractcs).makes_one s
  refine ⟨failure, read.thenStill fun abstractcs => ?_⟩
  split
  · have looked : Moves Still (lookAtClock (τ := Traced τ)) := fun _ => ⟨rfl, rfl⟩
    have paused : Moves Still (pause (τ := Traced τ)) := fun _ => ⟨rfl, rfl⟩
    refine looked.bind isTravel_still fun now => ?_
    split
    · exact (Moves.get isTravel_still).bind isTravel_still fun s => still_failLogged _ _
    · exact paused.bind isTravel_still fun _ => .pure isTravel_still _
  · exact .pure isTravel_still _

/-- A poll makes a look, and others after it. -/
theorem makes_pollUntil (deadline : Nat) (s : Session (Traced τ)) :
    ∃ k failure, Makes s (List.replicate (k + 1) (.read .abstractcs)) failure
      (Action.exec (pollUntil deadline) s) := by
  revert s
  refine induction_on_looks deadline fun s rest => ?_
  obtain ⟨failure, looked⟩ := makes_pollOnce deadline s
  rw [exec_pollUntil]
  generalize (pollOnce deadline).exec s = look at looked rest
  obtain ⟨outcome, s'⟩ := look
  rcases outcome with e | _ | abstractcs
  · exact ⟨0, failure, looked.stopped⟩
  · obtain ⟨k, failure', others⟩ := rest s' rfl
    exact ⟨k + 1, failure', looked.andThen others⟩
  · exact ⟨0, none, looked.andThen (makes_none rfl rfl)⟩

theorem makes_expectDmi (address : BusAddress) (expected mask : Word) (text : String)
    (s : Session (Traced τ)) :
    ∃ failure, Makes s [.expect address expected mask] failure
      ((expectDmi address expected mask text).exec s) := by
  obtain ⟨failure, asked⟩ := (conducts_expect address expected mask).makes_one s
  refine ⟨failure, asked.thenStill fun check => ?_⟩
  cases check with
  | passed => exact .pure isTravel_still ()
  | deferred => exact .pure isTravel_still ()
  | failed actual => exact still_failLogged _ _

theorem makes_pollAbstractcs (s : Session (Traced τ)) :
    ∃ k failure, Makes s (List.replicate (k + 1) (.read .abstractcs)) failure (pollAbstractcs.exec s) := by
  have begun : Makes s [] none
      ((.ok s.timer.now : Except DebugError Nat), { s with timer := s.timer.looked }) :=
    makes_none rfl rfl
  obtain ⟨k, failure, polled⟩ := makes_pollUntil (s.timer.now + s.config.busyTimeout.nanoseconds)
    { s with timer := s.timer.looked }
  exact ⟨k, failure, begun.andThen polled⟩

/-- **A command is waited for** in one of two ways, as the transport reads values back or not. -/
theorem makes_waitForCommand (s : Session (Traced τ)) :
    ∃ calls failure, Awaits s.config.settleCycles (Bus.isLive s.transport.transport) calls failure ∧
      Makes s calls failure (waitForCommand.exec s) := by
  rw [waitForCommand, Action.exec_bind_ok (Action.exec_get s)]
  show ∃ calls failure, Awaits _ s.isLive _ _ ∧ _
  cases s.isLive with
  | true =>
    obtain ⟨k, failure, polled⟩ := makes_pollAbstractcs s
    refine ⟨_, failure, .looks (k := k), polled.thenStill fun abstractcs => ?_⟩
    split
    · exact .pure isTravel_still ()
    · exact .throw isTravel_still _
  | false =>
    have begun := conducts_idle s.config.settleCycles s
    rw [if_neg Bool.false_ne_true, Action.exec_bind_ok (Action.exec_get s), Action.exec_bind]
    generalize (onTransport _).exec s = ran at begun
    obtain ⟨e | _, s'⟩ := ran
    · obtain ⟨calls, part, makes⟩ := begun
      exact ⟨_, some e, .pause, part.eq_of_length_le makes.made.length_pos ▸ makes.stopped⟩
    · obtain ⟨failure, expected⟩ := makes_expectDmi .abstractcs 0 Abstractcs.unfinished
        "abstract command did not complete cleanly" s'
      exact ⟨_, failure, .expectation, begun.andThen expected⟩

/-! ### Writing a register -/

/-- The calls that carry a value over, word by word, and ask for it to be moved into a register. -/
def writeCalls (number : RegisterNumber) (width : TransferWidth) (value : Value) : List TransportCall :=
  (List.range width.slots).map (fun slot => .write (.data slot) (value.word slot)) ++
    [.write .command (AccessRegister.move number width true)]

/-- The calls carry all words of a value over, to addresses from four upwards, and then ask for the value to
be moved into a register. -/
def CarriesOver (plan : List TransportCall) (number : RegisterNumber) (width : TransferWidth)
    (value : Value) : Prop :=
  ∃ words command,
    plan = words.mapIdx (fun slot word => .write (BitVec.ofNat 8 (0x04 + slot)) word) ++
      [.write 0x17 command] ∧
    words.length = width.bits / 32 ∧ Value.ofWords words = value ∧
      AccessRegister.IsWrite command number width.bits

theorem carriesOver_writeCalls (number : RegisterNumber) {width : TransferWidth} {value : Value}
    (fits : value.Fits width.bits) : CarriesOver (writeCalls number width value) number width value := by
  refine ⟨(List.range width.slots).map value.word, AccessRegister.move number width true, ?_, ?_, ?_,
    AccessRegister.isWrite_move number width⟩
  · cases width <;> rfl
  · rw [List.length_map, List.length_range, width.bits_eq_slots]
    omega
  · rw [Value.ofWords_words value width.slots_le, ← width.bits_eq_slots]
    exact Value.and_lowMask_of_fits fits (Nat.le_refl _) width.bits_le

/-- A wide value is split with its low words first. -/
example : writeCalls 0x1008 .w128 0x44444444333333332222222211111111 =
    [.write 0x04 0x11111111, .write 0x05 0x22222222, .write 0x06 0x33333333, .write 0x07 0x44444444,
      .write 0x17 0x00431008] := by
  decide

/-- How far a write gets on a transport: one of its calls has failed, or all of them have been answered and the
command is waited for. -/
inductive Written (plan : List TransportCall) (cycles : Nat) (t : τ) :
    List TransportCall → Option DebugError → τ → Prop where
  | stopped {calls : List TransportCall} {e : DebugError} {t' : τ} (part : calls <+: plan)
      (made : Made t calls (some e) t') : Written plan cycles t calls (some e) t'
  | awaited {calls : List TransportCall} {failure : Option DebugError} {u t' : τ}
      (whole : Made t plan none u) (awaits : Awaits cycles (Bus.isLive u) calls failure)
      (rest : Made u calls failure t') : Written plan cycles t (plan ++ calls) failure t'

theorem conducts_writeCalls (number : RegisterNumber) (width : TransferWidth) (value : Value) :
    Conducts (writeCalls number width value) (do
      (List.range width.slots).forM fun slot => writeDmi (.data slot) (value.word slot)
      writeDmi (τ := Traced τ) .command (AccessRegister.move number width true)) :=
  (conducts_forM (fun _ => conducts_writeDmi _ _) _).bind fun _ => conducts_writeDmi _ _

/-- **A write makes its calls in order** and stops at the first that fails. -/
theorem written_moveIn (place : Place) (value : Value) (s : Session (Traced τ)) :
    let ran := Action.exec (do
      (List.range place.width.slots).forM fun slot => writeDmi (.data slot) (value.word slot)
      moveRegister place true) s
    ∃ calls failure, Makes s calls failure ran ∧
      Written (writeCalls place.register.number place.width value) s.config.settleCycles
        s.transport.transport calls failure ran.2.transport.transport := by
  have begun := conducts_writeCalls place.register.number place.width value s
  dsimp only [moveRegister]
  rw [← Action.exec_bind_assoc, Action.exec_bind]
  generalize Action.exec (_ >>= _) s = ran at begun
  obtain ⟨e | _, s'⟩ := ran
  · obtain ⟨calls, part, makes⟩ := begun
    exact ⟨calls, some e, makes.stopped, .stopped part makes.made⟩
  · obtain ⟨calls, failure, awaits, makes⟩ := makes_waitForCommand s'
    rw [begun.config] at awaits
    exact ⟨_, failure, begun.andThen makes, .awaited begun.made awaits makes.made⟩

/-- What a write of a register does, on a session under trace. -/
structure WritesInOrder (s : Session τ) (name : String) (value : Value) (width : Option TransferWidth) :
    Prop where
  /-- The trace by which the calls are known makes no difference. -/
  outcome : ((writeRegister name value width).exec s.traced).1 = ((writeRegister name value width).exec s).1
  transport : ((writeRegister name value width).exec s.traced).2.transport.transport =
    ((writeRegister name value width).exec s).2.transport
  /-- A name that is not known is refused, and nothing is called. -/
  unknown : (∀ register, Catalog.standard.resolve name ≠ .ok register) →
    (writeRegister name value width).exec s.traced = (.error (.unknownRegister name), s.traced)
  /-- So is a value with more bits than count. -/
  outOfRange : ∀ register, Catalog.standard.resolve name = .ok register →
    2 ^ register.bitsAt (width.getD s.width) ≤ value.toNat →
    (writeRegister name value width).exec s.traced =
      (.error (.valueOutOfRange value (register.bitsAt (width.getD s.width))), s.traced)
  /-- Any other value is carried over, as far as the calls are answered. -/
  carried : ∀ register, Catalog.standard.resolve name = .ok register →
    value.toNat < 2 ^ register.bitsAt (width.getD s.width) →
    ∃ plan calls failure, CarriesOver plan register.number (width.getD s.width) value ∧
      ((writeRegister name value width).exec s.traced).2.transport.calls = calls ∧
      Written plan s.config.settleCycles s.transport calls failure
        ((writeRegister name value width).exec s).2.transport ∧
      ∀ e, failure = some e → ((writeRegister name value width).exec s).1 = .error e
  /-- The first call that fails is the last one, and its error is that of the write. -/
  firstFailure : ∀ before call after t e t',
    ((writeRegister name value width).exec s.traced).2.transport.calls = before ++ call :: after →
    Made s.transport before none t → call.perform.exec t = (.error e, t') →
    after = [] ∧ ((writeRegister name value width).exec s).1 = .error e ∧
      ((writeRegister name value width).exec s).2.transport = t'

variable {s : Session (Traced τ)} {name : String} {value : Value} {width : Option TransferWidth}

/-- A value without a place is refused, and nothing is called. -/
theorem exec_writeRegister_refused {e : DebugError} (refused : s.placeRefusal? name value width = some e) :
    (writeRegister name value width).exec s = (.error e, s) := by
  rw [writeRegister, Action.exec_bind_error (exec_locateFor_refused refused)]

/-- A value with a place is carried over. -/
theorem written_writeRegister {place : Place} (located : s.locate name width = .ok place)
    (fits : value.Fits place.bits) :
    ∃ calls failure, Makes s calls failure ((writeRegister name value width).exec s) ∧
      Written (writeCalls place.register.number place.width value) s.config.settleCycles
        s.transport.transport calls failure
        ((writeRegister name value width).exec s).2.transport.transport := by
  rw [writeRegister, Action.exec_bind_ok (exec_locateFor located fits),
    Action.exec_bind_ok (Action.exec_log _ _ _ s)]
  exact written_moveIn place value s

theorem makes_writeRegister (s : Session (Traced τ)) (name : String) (value : Value)
    (width : Option TransferWidth) :
    ∃ calls failure, Makes s calls failure ((writeRegister name value width).exec s) := by
  cases refusal : s.placeRefusal? name value width with
  | some e =>
    rw [exec_writeRegister_refused refusal]
    exact ⟨[], none, makes_none rfl rfl⟩
  | none =>
    obtain ⟨place, found⟩ := exists_exec_locateFor refusal
    obtain ⟨located, fits⟩ := locateFor_eq_ok found
    obtain ⟨calls, failure, makes, -⟩ := written_writeRegister located fits
    exact ⟨calls, failure, makes⟩

theorem simulates_writeRegister_traced (s : Session τ) (name : String) (value : Value)
    (width : Option TransferWidth) :
    ((writeRegister name value width).exec s.traced).1 = ((writeRegister name value width).exec s).1 ∧
      ((writeRegister name value width).exec s.traced).2.transport.transport =
        ((writeRegister name value width).exec s).2.transport := by
  obtain ⟨same, alike⟩ :=
    simulates_writeRegister agree_traced name value width s.traced s (alike_traced s)
  exact ⟨same, alike.transport⟩

/-- **What every write of a register does**, on every transport, from every state of the session and whatever the
calls are answered: a value without a place is refused before anything is called; any other is carried over
word by word, then the command is given, and then it is waited for; and the first call that fails is the last. -/
theorem writeRegister_in_order (s : Session τ) (name : String) (value : Value)
    (width : Option TransferWidth) : WritesInOrder s name value width where
  outcome := (simulates_writeRegister_traced s name value width).1
  transport := (simulates_writeRegister_traced s name value width).2
  unknown := by
    intro unknown
    apply exec_writeRegister_refused
    rw [placeRefusal?]
    cases located : s.traced.locate name width with
    | error e => rw [locate_eq_error located]
    | ok place => exact absurd (locate_eq_ok located).1 (unknown _)
  outOfRange := by
    intro register resolved large
    apply exec_writeRegister_refused
    rw [placeRefusal?, locate_of_resolve resolved]
    exact if_neg fun fits => Nat.not_lt.2 large ((Value.fits_iff _ _).1 fits)
  carried := by
    intro register resolved small
    have fits : value.Fits (register.bitsAt (width.getD s.width)) := (Value.fits_iff _ _).2 small
    obtain ⟨calls, failure, makes, written⟩ :=
      written_writeRegister (locate_of_resolve resolved s.traced width) fits
    have ended := makes.failed
    rw [(simulates_writeRegister_traced s name value width).1] at ended
    rw [(simulates_writeRegister_traced s name value width).2] at written
    refine ⟨_, calls, failure, carriesOver_writeCalls register.number ?_, makes.listed, written, ended⟩
    exact fits.mono (Nat.min_le_right _ _)
  firstFailure := by
    intro before call after t e t' listed answered fails
    obtain ⟨calls, failure, makes⟩ := makes_writeRegister s.traced name value width
    obtain rfl : calls = before ++ call :: after := makes.listed.symm.trans listed
    rw [← (simulates_writeRegister_traced s name value width).1,
      ← (simulates_writeRegister_traced s name value width).2]
    exact makes.first_failure answered fails

end Session

end HartDebug
