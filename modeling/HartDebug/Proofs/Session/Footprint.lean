import HartDebug.Proofs.Effects
import HartDebug.Proofs.Session.Polling
import HartDebug.Proofs.Session.Traced

/-!
# The footprint of operations on the bus

Besides raw accesses, the operations of a session touch few registers of a debug module: the operand
registers, the program buffer, and the registers of control, of status and of commands.  What they give to
`dmcontrol` is fixed beforehand for each operation.  One that fails has given a part of it; one that
succeeds has given all of it, and has withdrawn what it must not leave standing.

* `TransportCall.IsTame` — a call within the footprint;
* `Dmcontrol.IsModest` — a value that makes at most one request, and of the first hart;
* `Session.Issues` — an action whose calls are tame, and the values that it gives to `dmcontrol`;
* `Operation.controls`, `issues_perform` — **what each operation gives to `dmcontrol`**;
* `Session.Footprint`, `bus_footprint` — **every sequence of operations keeps within the footprint**, on every
  transport.
-/

namespace HartDebug

variable {τ α β : Type}

/-! ## Calls -/

/-- The registers that operations use: operands, control, status, the two of commands, and the program
buffer. -/
def BusAddress.InUse (address : BusAddress) : Prop :=
  (0x04 ≤ address.toNat ∧ address.toNat ≤ 0x07) ∨ address.toNat = 0x10 ∨ address.toNat = 0x11 ∨
    address.toNat = 0x16 ∨ address.toNat = 0x17 ∨ (0x20 ≤ address.toNat ∧ address.toNat ≤ 0x2f)

instance (address : BusAddress) : Decidable address.InUse := by
  unfold BusAddress.InUse
  infer_instance

namespace BusAddress

/-- The address of an operand register is a sum that does not wrap. -/
theorem toNat_data_eq {slot : Nat} (h : slot < 4) : (data slot).toNat = 0x04 + slot := by
  revert slot
  decide

/-- The address of a word of the program buffer is a sum that does not wrap. -/
theorem toNat_progbuf_eq {i : Nat} (h : i < 16) : (progbuf i).toNat = 0x20 + i := by
  revert i
  decide

/-- The operand registers are in use, and apart from those of control and of status. -/
theorem inUse_data {slot : Nat} (h : slot < 4) :
    (data slot).InUse ∧ data slot ≠ dmstatus ∧ data slot ≠ dmcontrol := by
  revert slot
  decide

/-- The program buffer is in use, and apart from the registers of control and of status. -/
theorem inUse_progbuf {i : Nat} (h : i < 16) :
    (progbuf i).InUse ∧ progbuf i ≠ dmstatus ∧ progbuf i ≠ dmcontrol := by
  revert i
  decide

theorem InUse.toNat_lt {address : BusAddress} (h : address.InUse) : address.toNat < 0x80 := by
  unfold InUse at h
  omega

end BusAddress

namespace TransportCall

/-- The register of the debug module that a call is about. -/
def address? : TransportCall → Option BusAddress
  | .write address _ => some address
  | .read address => some address
  | .expect address _ _ => some address
  | _ => none

/-- The value that a call gives to `dmcontrol`. -/
def control? : TransportCall → Option Word
  | .write address data => if address = .dmcontrol then some data else none
  | _ => none

/-- The call keeps to the registers in use, and does not write the one that is only read. -/
structure IsTame (call : TransportCall) : Prop where
  inUse : ∀ {address}, call.address? = some address → address.InUse
  unwritten : ∀ data, call ≠ .write .dmstatus data

theorem isTame_write {address : BusAddress} (used : address.InUse) (other : address ≠ .dmstatus)
    (data : Word) : (write address data).IsTame where
  inUse same := Option.some.inj same ▸ used
  unwritten data' same := by
    cases same
    exact other rfl

theorem isTame_read {address : BusAddress} (used : address.InUse) : (read address).IsTame where
  inUse same := Option.some.inj same ▸ used
  unwritten := nofun

theorem isTame_expect {address : BusAddress} (used : address.InUse) (expected mask : Word) :
    (expect address expected mask).IsTame where
  inUse same := Option.some.inj same ▸ used
  unwritten := nofun

/-- A call that is not about the debug module. -/
theorem isTame_of_address? {call : TransportCall} (elsewhere : call.address? = none) : call.IsTame where
  inUse same := by
    rw [elsewhere] at same
    cases same
  unwritten data same := by
    rw [same] at elsewhere
    cases elsewhere

end TransportCall

/-- The values that calls give to `dmcontrol`, one after another. -/
def controlWrites (calls : List TransportCall) : List Word :=
  calls.filterMap TransportCall.control?

theorem controlWrites_append (first second : List TransportCall) :
    controlWrites (first ++ second) = controlWrites first ++ controlWrites second :=
  List.filterMap_append

/-! ## Values of `dmcontrol` -/

namespace Dmcontrol

/-- The bits that request something. -/
def requests : List BitField :=
  [haltreq, resumereq, hartreset, ackhavereset, setresethaltreq, clrresethaltreq, ndmreset]

/-- The value keeps the debug module active, selects the first hart alone, and requests one thing at
most. -/
def IsModest (w : Word) : Prop :=
  dmactive.isSet w = true ∧
    (hartsello.get w = 0 ∧ hartselhi.get w = 0 ∧ hasel.isSet w = false) ∧
    (requests.filter fun f => f.isSet w).length ≤ 1

instance (w : Word) : Decidable (IsModest w) :=
  inferInstanceAs (Decidable (_ ∧ _ ∧ _))

theorem isModest_active : IsModest active := by
  decide +kernel

theorem isModest_request {f : BitField} (mem : f ∈ requests) : IsModest (request f) := by
  revert f
  decide +kernel

/-- The value asks the hart neither to halt nor to stay in reset. -/
def IsCalm (w : Word) : Prop :=
  haltreq.isSet w = false ∧ ndmreset.isSet w = false

instance (w : Word) : Decidable (IsCalm w) :=
  inferInstanceAs (Decidable (_ ∧ _))

end Dmcontrol

namespace Session

/-! ## Actions -/

/-- A run that has made tame calls only.  If it has answered, it has given `dmcontrol` the values of the list
in order, and otherwise the first few of them. -/
def Issued (values : List Word) (s : Session (Traced τ))
    (ran : Except DebugError α × Session (Traced τ)) : Prop :=
  ∃ calls, ran.2.transport.calls = s.transport.calls ++ calls ∧ (∀ call ∈ calls, call.IsTame) ∧
    controlWrites calls <+: values ∧ ∀ a, ran.1 = .ok a → controlWrites calls = values

/-- What every run of the action issues. -/
def Issues (values : List Word) (x : Action DebugError (Session (Traced τ)) α) : Prop :=
  ∀ s, Issued values s (x.exec s)

section Parts

variable {values values' : List Word} {s s' : Session (Traced τ)}
  {x : Action DebugError (Session (Traced τ)) α}

/-- A run goes on where another has answered. -/
theorem Issued.andThen {a : α} {ran : Except DebugError β × Session (Traced τ)}
    (first : Issued values s ((.ok a : Except DebugError α), s')) (second : Issued values' s' ran) :
    Issued (values ++ values') s ran := by
  obtain ⟨calls, listed, tame, -, whole⟩ := first
  obtain ⟨calls', listed', tame', part', whole'⟩ := second
  have all : controlWrites calls = values := whole a rfl
  refine ⟨calls ++ calls', ?_, ?_, ?_, ?_⟩
  · rw [listed', listed, List.append_assoc]
  · intro call mem
    exact (List.mem_append.1 mem).elim (tame call) (tame' call)
  · rw [controlWrites_append, all]
    exact (List.prefix_append_right_inj values).2 part'
  · intro b answered
    rw [controlWrites_append, all, whole' b answered]

/-- A run that has failed issues no more. -/
theorem Issued.failed {e : DebugError} (first : Issued values s ((.error e : Except DebugError α), s')) :
    Issued (values ++ values') s ((.error e : Except DebugError β), s') := by
  obtain ⟨calls, listed, tame, part, -⟩ := first
  exact ⟨calls, listed, tame, part.trans (List.prefix_append _ _), nofun⟩

/-- An action that makes no call. -/
theorem issues_of_unmoved (h : ∀ s, (x.exec s).2.transport = s.transport) : Issues [] x := by
  intro s
  refine ⟨[], ?_, nofun, List.nil_prefix, fun _ _ => rfl⟩
  rw [h, List.append_nil]

/-- An action that fails before its first call. -/
theorem issues_of_failed (h : ∀ s, ∃ e, x.exec s = (.error e, s)) : Issues values x := by
  intro s
  obtain ⟨e, failed⟩ := h s
  rw [failed]
  exact ⟨[], (List.append_nil _).symm, nofun, List.nil_prefix, nofun⟩

theorem issues_pure (a : α) : Issues [] (pure a : Action DebugError (Session (Traced τ)) α) :=
  issues_of_unmoved fun _ => rfl

theorem issues_throw (e : DebugError) :
    Issues values (throw e : Action DebugError (Session (Traced τ)) α) :=
  issues_of_failed fun _ => ⟨e, rfl⟩

theorem issues_failLogged (source : Source) (e : DebugError) :
    Issues values (failLogged source e : Action DebugError (Session (Traced τ)) α) :=
  issues_of_failed fun s => ⟨e, exec_failLogged source e s⟩

theorem issues_log (level : Level) (source : Source) (text : String) :
    Issues [] (Action.log level source text : Action DebugError (Session (Traced τ)) Unit) :=
  issues_of_unmoved fun _ => rfl

theorem issues_modify {f : Session (Traced τ) → Session (Traced τ)}
    (h : ∀ s, (f s).transport = s.transport) : Issues [] (modify f) :=
  issues_of_unmoved h

/-- **One action after another** issues the values of the first, and then those of the second. -/
theorem Issues.bind {f : α → Action DebugError (Session (Traced τ)) β} (first : Issues values x)
    (second : ∀ a, Issues values' (f a)) : Issues (values ++ values') (x >>= f) := by
  intro s
  have begun := first s
  rw [Action.exec_bind]
  generalize x.exec s = ran at begun
  obtain ⟨outcome, s'⟩ := ran
  cases outcome with
  | error e => exact begun.failed
  | ok a => exact begun.andThen (second a s')

theorem Issues.map (h : Issues values x) (f : α → β) : Issues values (f <$> x) := by
  have whole := h.bind fun a => issues_pure (f a)
  rw [List.append_nil] at whole
  exact whole

/-- What follows a look at the session issues the same whatever was seen. -/
theorem issues_get_bind {f : Session (Traced τ) → Action DebugError (Session (Traced τ)) α}
    (h : ∀ s, Issues values (f s)) : Issues values (get >>= f) :=
  fun s => h s s

/-- An attempt at an action that issues nothing. -/
theorem Issues.attempt (h : Issues [] x) :
    Issues [] (x.attempt : Action DebugError (Session (Traced τ)) (Except DebugError α)) := by
  intro s
  obtain ⟨calls, listed, tame, part, -⟩ := h s
  exact ⟨calls, listed, tame, part, fun _ _ => List.prefix_nil.1 part⟩

theorem issues_ofExcept (r : Except DebugError α) :
    Issues [] (Action.ofExcept r : Action DebugError (Session (Traced τ)) α) :=
  issues_of_unmoved fun _ => rfl

theorem issues_forM {f : β → Action DebugError (Session (Traced τ)) PUnit} {l : List β}
    (each : ∀ b ∈ l, Issues [] (f b)) : Issues [] (l.forM f) := by
  induction l with
  | nil => exact issues_pure _
  | cons b l ih =>
    show Issues ([] ++ []) (f b >>= fun _ => l.forM f)
    apply (each b List.mem_cons_self).bind
    intro _
    exact ih fun c mem => each c (List.mem_cons_of_mem b mem)

theorem issues_mapM {f : β → Action DebugError (Session (Traced τ)) α} {l : List β}
    (each : ∀ b ∈ l, Issues [] (f b)) : Issues [] (l.mapM f) := by
  suffices from_here : ∀ done, Issues [] (List.mapM.loop f l done) from from_here []
  induction l with
  | nil => exact fun done => issues_pure done.reverse
  | cons b l ih =>
    intro done
    show Issues ([] ++ []) (f b >>= fun a => List.mapM.loop f l (a :: done))
    apply (each b List.mem_cons_self).bind
    intro a
    exact ih (fun c mem => each c (List.mem_cons_of_mem b mem)) (a :: done)

/-- A single call, whatever becomes of it. -/
theorem issues_call {call : TransportCall} (tame : call.IsTame) (x : Action DebugError τ α) :
    Issues call.control?.toList (onTransport (Traced.call call x)) := by
  have single : controlWrites [call] = call.control?.toList := by
    unfold controlWrites
    cases h : call.control? <;> simp [h]
  intro s
  refine ⟨[call], rfl, ?_, ?_, fun _ _ => single⟩
  · intro other mem
    rw [List.mem_singleton.1 mem]
    exact tame
  · exact single ▸ List.prefix_refl _

end Parts

/-! ## Single accesses -/

variable [Transport τ]

theorem issues_writeDmi {address : BusAddress} (used : address.InUse) (status : address ≠ .dmstatus)
    (control : address ≠ .dmcontrol) (data : Word) :
    Issues [] (writeDmi (τ := Traced τ) address data) := by
  have issued := (issues_log (τ := τ) .trace .bus
    s!"DMI write {Hex.padded 2 address.toNat} <- {Hex.padded 8 data.toNat}").bind fun _ =>
      issues_call (TransportCall.isTame_write used status data) (Bus.write (τ := τ) address data)
  rw [TransportCall.control?, if_neg control] at issued
  exact issued

theorem issues_control (data : Word) : Issues [data] (writeDmi (τ := Traced τ) .dmcontrol data) :=
  (issues_log _ _ _).bind fun _ =>
    issues_call (TransportCall.isTame_write (by decide) (by decide) data) _

theorem issues_readDmi {address : BusAddress} (used : address.InUse) :
    Issues [] (readDmi (τ := Traced τ) address) :=
  (issues_call (TransportCall.isTame_read used) _).bind fun data =>
    (issues_log _ _ _).bind fun _ => issues_pure data

theorem issues_expectDmi {address : BusAddress} (used : address.InUse) (expected mask : Word)
    (failure : String) : Issues [] (expectDmi (τ := Traced τ) address expected mask failure) := by
  refine (issues_call (TransportCall.isTame_expect used expected mask) _).bind fun check => ?_
  cases check with
  | passed => exact issues_pure ()
  | deferred => exact issues_pure ()
  | failed actual => exact issues_failLogged _ _

omit [Transport τ] in
/-- A call that is not about the debug module. -/
theorem issues_elsewhere {call : TransportCall} (elsewhere : call.address? = none)
    (x : Action DebugError τ α) : Issues [] (onTransport (Traced.call call x)) := by
  have none : call.control?.toList = [] := by
    cases call <;> simp_all [TransportCall.address?, TransportCall.control?]
  rw [← none]
  exact issues_call (TransportCall.isTame_of_address? elsewhere) x

theorem issues_expectNoBusError (cleared : String) :
    Issues [] (expectNoBusError (τ := Traced τ) cleared) := by
  apply issues_get_bind
  intro s
  split
  · refine (issues_elsewhere rfl _).bind fun status => ?_
    dsimp only
    split
    · exact issues_failLogged _ _
    · exact issues_pure _
  · exact issues_pure _

theorem issues_activateDm : Issues [Dmcontrol.active] (activateDm (τ := Traced τ)) :=
  (issues_log _ _ _).bind fun _ => (issues_control _).bind fun _ =>
    issues_expectDmi (by decide) _ _ _

theorem issues_deactivateDm : Issues [0] (deactivateDm (τ := Traced τ)) :=
  (issues_log _ _ _).bind fun _ => (issues_control _).bind fun _ =>
    issues_expectDmi (by decide) _ _ _

theorem issues_readIdcode : Issues [] (readIdcode (τ := Traced τ)) :=
  (issues_elsewhere rfl _).bind fun idcode => (issues_log _ _ _).bind fun _ => issues_pure idcode

theorem issues_expectIdcode (expected : Word) : Issues [] (expectIdcode (τ := Traced τ) expected) := by
  refine (issues_elsewhere rfl _).bind fun check => ?_
  cases check with
  | passed => exact issues_pure ()
  | deferred => exact issues_pure ()
  | failed actual => exact issues_failLogged _ _

theorem issues_diagnose : Issues [] (diagnose (τ := Traced τ)) := by
  refine (issues_elsewhere rfl _).bind fun status => ?_
  dsimp only
  split
  · exact issues_pure _
  · split
    · exact issues_pure _
    · refine (issues_readDmi (by decide)).bind fun control => ?_
      split
      · refine (issues_readDmi (by decide)).bind fun abstractcs => ?_
        split
        · exact issues_pure _
        · exact issues_pure _
      · exact issues_pure _

/-! ## Commands -/

theorem issues_pollOnce (deadline : Nat) : Issues [] (pollOnce (τ := Traced τ) deadline) := by
  refine (issues_readDmi (by decide)).bind fun abstractcs => ?_
  split
  · have looked : Issues [] (lookAtClock (τ := Traced τ)) := issues_of_unmoved fun _ => rfl
    have paused : Issues [] (pause (τ := Traced τ)) := issues_of_unmoved fun _ => rfl
    refine looked.bind fun now => ?_
    split
    · exact issues_get_bind fun s => issues_failLogged _ _
    · exact paused.bind fun _ => issues_pure _
  · exact issues_pure _

/-- A poll makes tame calls, look by look. -/
theorem issues_pollUntil (deadline : Nat) :
    Issues [] (pollUntil deadline : Action DebugError (Session (Traced τ)) Word) := by
  refine induction_on_looks deadline fun s rest => ?_
  have looked := issues_pollOnce deadline s
  rw [exec_pollUntil]
  generalize (pollOnce deadline).exec s = look at looked rest
  obtain ⟨outcome, s'⟩ := look
  rcases outcome with e | _ | abstractcs
  · exact looked.failed
  · exact looked.andThen (rest s' rfl)
  · exact looked.andThen (issues_pure abstractcs s')

theorem issues_pollAbstractcs : Issues [] (pollAbstractcs (τ := Traced τ)) := by
  have looked : Issues [] (lookAtClock (τ := Traced τ)) := issues_of_unmoved fun _ => rfl
  exact looked.bind fun started => issues_get_bind fun s => issues_pollUntil _

theorem issues_waitForCommand : Issues [] (waitForCommand (τ := Traced τ)) := by
  apply issues_get_bind
  intro s
  split
  · refine issues_pollAbstractcs.bind fun abstractcs => ?_
    split
    · exact issues_pure ()
    · exact issues_throw _
  · apply issues_get_bind
    intro s
    exact (issues_elsewhere rfl _).bind fun _ => issues_expectDmi (by decide) _ _ _

theorem issues_clearCommandError : Issues [] (clearCommandError (τ := Traced τ)) := by
  refine (issues_writeDmi (by decide) (by decide) (by decide) _).bind fun _ => ?_
  apply issues_get_bind
  intro s
  split
  · refine issues_pollAbstractcs.bind fun abstractcs => ?_
    split
    · exact issues_pure ()
    · exact issues_failLogged _ _
  · exact issues_expectDmi (by decide) _ _ _

/-! ## Registers and programs -/

theorem slot_lt {width : TransferWidth} {slot : Nat} (mem : slot ∈ List.range width.slots) :
    slot < 4 := by
  have below := List.mem_range.1 mem
  have most := width.slots_le
  omega

omit [Transport τ] in
theorem issues_locateFor (name : String) (value : Value) (width : Option TransferWidth) :
    Issues [] (locateFor (τ := Traced τ) name value width) := by
  apply issues_get_bind
  intro s
  refine (issues_ofExcept _).bind fun place => ?_
  split
  · exact issues_pure place
  · exact issues_failLogged _ _

theorem issues_moveRegister (place : Place) (isWrite : Bool) :
    Issues [] (moveRegister (τ := Traced τ) place isWrite) :=
  (issues_writeDmi (by decide) (by decide) (by decide) _).bind fun _ => issues_waitForCommand

theorem issues_writeRegister (name : String) (value : Value) (width : Option TransferWidth) :
    Issues [] (writeRegister (τ := Traced τ) name value width) := by
  refine (issues_locateFor name value width).bind fun place => (issues_log _ _ _).bind fun _ => ?_
  refine (issues_forM fun slot mem => ?_).bind fun _ => issues_moveRegister place true
  obtain ⟨used, status, control⟩ := BusAddress.inUse_data (slot_lt mem)
  exact issues_writeDmi used status control _

theorem issues_readRegister (name : String) (width : Option TransferWidth) :
    Issues [] (readRegister (τ := Traced τ) name width) := by
  apply issues_get_bind
  intro s
  refine (issues_ofExcept _).bind fun place => ?_
  apply issues_get_bind
  intro s
  split
  · refine (issues_moveRegister place false).bind fun _ => ?_
    refine (issues_mapM fun slot mem => issues_readDmi ?_).bind fun words => ?_
    · exact (BusAddress.inUse_data (slot_lt mem)).1
    · exact (issues_log _ _ _).bind fun _ => issues_pure _
  · exact issues_throw _

theorem issues_expectRegister (name : String) (expected : Value) (width : Option TransferWidth) :
    Issues [] (expectRegister (τ := Traced τ) name expected width) := by
  refine (issues_locateFor name expected width).bind fun place => ?_
  refine (issues_moveRegister place false).bind fun _ => ?_
  apply issues_forM
  intro slot mem
  exact issues_expectDmi (BusAddress.inUse_data (slot_lt mem)).1 _ _ _

theorem issues_dumpNames (group : RegisterGroup) (width : Option TransferWidth) :
    ∀ names : List String, Issues [] (dumpNames (τ := Traced τ) group width names)
  | [] => issues_pure []
  | name :: rest => by
    refine (issues_readRegister name width).attempt.bind fun outcome => ?_
    split
    · exact (issues_dumpNames group width rest).bind fun others => issues_pure _
    · exact (issues_log _ _ _).bind fun _ => issues_clearCommandError.bind fun _ => issues_pure _
    · exact issues_throw _

theorem issues_discoverProgbufSize : Issues [] (discoverProgbufSize (τ := Traced τ)) := by
  refine (issues_readDmi (by decide)).bind fun abstractcs => (issues_log _ _ _).bind fun _ => ?_
  exact (issues_modify fun _ => rfl).bind fun _ => issues_pure _

theorem issues_loadFrom (i : Nat) (program : List Word) (room : i + program.length ≤ 16) :
    Issues [] (loadFrom (τ := Traced τ) i program) := by
  induction program generalizing i with
  | nil => exact issues_pure ()
  | cons instruction rest ih =>
    rw [List.length_cons] at room
    obtain ⟨used, status, control⟩ := BusAddress.inUse_progbuf (show i < 16 by omega)
    refine (issues_log _ _ _).bind fun _ => (issues_writeDmi used status control _).bind fun _ => ?_
    exact ih (i + 1) (by omega)

/-- A program that is not refused has its words within the program buffer. -/
theorem issues_loadProgram (program : List Word) :
    Issues [] (loadProgram (τ := Traced τ) program) := by
  apply issues_get_bind
  intro s
  have limit : s.programLimit ≤ 16 := Nat.min_le_right _ _
  dsimp only
  split
  · exact issues_failLogged _ _
  · exact (issues_log _ _ _).bind fun _ => issues_loadFrom 0 program (by omega)

theorem issues_executeProgram : Issues [] (executeProgram (τ := Traced τ)) := by
  refine (issues_log _ _ _).bind fun _ => ?_
  refine (issues_writeDmi (by decide) (by decide) (by decide) _).bind fun _ => ?_
  apply issues_get_bind
  intro s
  split
  · exact issues_waitForCommand
  · apply issues_get_bind
    intro s
    exact issues_elsewhere rfl _

/-! ## Run control -/

theorem issues_halt :
    Issues [Dmcontrol.request Dmcontrol.haltreq, Dmcontrol.active] (halt (τ := Traced τ)) :=
  (issues_log _ _ _).bind fun _ => (issues_control _).bind fun _ =>
    (issues_expectDmi (by decide) _ _ _).bind fun _ => issues_control _

theorem issues_resume : Issues [Dmcontrol.request Dmcontrol.resumereq] (resume (τ := Traced τ)) :=
  (issues_log _ _ _).bind fun _ => (issues_control _).bind fun _ =>
    issues_expectDmi (by decide) _ _ _

theorem issues_currentDcsr : Issues [] (currentDcsr (τ := Traced τ)) := by
  apply issues_get_bind
  intro s
  split
  · exact (issues_readRegister _ _).bind fun value => issues_pure _
  · exact issues_get_bind fun s => issues_pure _

theorem issues_step : Issues [Dmcontrol.request Dmcontrol.resumereq] (step (τ := Traced τ)) := by
  refine (issues_log _ _ _).bind fun _ => issues_currentDcsr.bind fun dcsr => ?_
  have finish : Issues [Dmcontrol.request Dmcontrol.resumereq] (do
      request (τ := Traced τ) Dmcontrol.resumereq
      writeDcsr (dcsr &&& ~~~ stepBit)
      modify fun s : Session (Traced τ) => { s with dcsrShadow := dcsr &&& ~~~ stepBit }) :=
    (issues_control _).bind fun _ => (issues_writeRegister _ _ _).bind fun _ =>
      issues_modify fun _ => rfl
  dsimp only
  split
  · exact (issues_writeRegister _ _ _).bind fun _ => finish
  · exact finish

theorem issues_resetHart :
    Issues [Dmcontrol.request Dmcontrol.ndmreset, Dmcontrol.active,
      Dmcontrol.request Dmcontrol.ackhavereset] (resetHart (τ := Traced τ)) :=
  (issues_log _ _ _).bind fun _ => (issues_control _).bind fun _ => (issues_control _).bind fun _ =>
    (issues_expectDmi (by decide) _ _ _).bind fun _ => (issues_control _).bind fun _ =>
      issues_modify fun _ => rfl

end Session

/-! ## Operations -/

namespace Operation

/-- The operation is not an access to a register of the debug module as such. -/
def IsCooked (op : Operation) : Prop :=
  (∀ address data, op ≠ .writeDmi address data) ∧ (∀ address, op ≠ .readDmi address) ∧
    ∀ address expected mask failure, op ≠ .expectDmi address expected mask failure

/-- The values that an operation gives to `dmcontrol`. -/
def controls : Operation → List Word
  | .activateDm => [Dmcontrol.active]
  | .deactivateDm => [0]
  | .resetDm => [0, Dmcontrol.active]
  | .halt => [Dmcontrol.request Dmcontrol.haltreq, Dmcontrol.active]
  | .resume | .step => [Dmcontrol.request Dmcontrol.resumereq]
  | .resetHart =>
    [Dmcontrol.request Dmcontrol.ndmreset, Dmcontrol.active, Dmcontrol.request Dmcontrol.ackhavereset]
  | .setHaltOnReset => [Dmcontrol.request Dmcontrol.setresethaltreq]
  | .clearHaltOnReset => [Dmcontrol.request Dmcontrol.clrresethaltreq]
  | _ => []

/-- The values are modest, but for the zero with which the debug module is switched off. -/
theorem controls_modest (op : Operation) :
    (∀ data ∈ op.controls, Dmcontrol.IsModest data) ∨
      (op = .deactivateDm ∨ op = .resetDm) ∧
        ∃ rest, op.controls = 0 :: rest ∧ ∀ data ∈ rest, Dmcontrol.IsModest data := by
  have single {f : BitField} (mem : f ∈ Dmcontrol.requests) :
      ∀ data ∈ [Dmcontrol.request f], Dmcontrol.IsModest data :=
    List.forall_mem_singleton.2 (Dmcontrol.isModest_request mem)
  have active : ∀ data ∈ [Dmcontrol.active], Dmcontrol.IsModest data :=
    List.forall_mem_singleton.2 Dmcontrol.isModest_active
  cases op with
  | activateDm => exact .inl active
  | deactivateDm => exact .inr ⟨.inl rfl, [], rfl, nofun⟩
  | resetDm => exact .inr ⟨.inr rfl, [Dmcontrol.active], rfl, active⟩
  | halt =>
    left
    exact List.forall_mem_cons.2 ⟨Dmcontrol.isModest_request (by decide), active⟩
  | resetHart =>
    left
    apply List.forall_mem_cons.2 ⟨Dmcontrol.isModest_request (by decide), ?_⟩
    exact List.forall_mem_cons.2 ⟨Dmcontrol.isModest_active, single (by decide)⟩
  | resume | step | setHaltOnReset | clearHaltOnReset => exact .inl (single (by decide))
  | _ => exact .inl nofun

theorem isModest_of_controls {op : Operation} {i : Nat} {data : Word}
    (given : op.controls[i]? = some data) :
    Dmcontrol.IsModest data ∨ i = 0 ∧ data = 0 ∧ (op = .deactivateDm ∨ op = .resetDm) := by
  rcases op.controls_modest with modest | ⟨off, rest, split, modest⟩
  · exact .inl (modest data (List.mem_of_getElem? given))
  · rw [split] at given
    cases i with
    | zero => exact .inr ⟨rfl, (Option.some.inj given).symm, off⟩
    | succ i => exact .inl (modest data (List.mem_of_getElem? given))

/-- Nothing that must be withdrawn stands last. -/
theorem isCalm_of_controls {op : Operation} {data : Word} (last : op.controls.getLast? = some data) :
    Dmcontrol.IsCalm data := by
  cases op with
  | activateDm | deactivateDm | resetDm | halt | resume | step | resetHart | setHaltOnReset
  | clearHaltOnReset =>
    obtain rfl := Option.some.inj last
    decide +kernel
  | _ => cases last

end Operation

namespace Session

open Operation (performEach Reply)

theorem issues_done {values : List Word} {x : Action DebugError (Session (Traced τ)) Unit}
    (h : Issues values x) : Issues values (do x; pure Reply.done) := by
  have whole := h.bind fun _ => issues_pure Reply.done
  rw [List.append_nil] at whole
  exact whole

variable [Transport τ]

/-- **What each operation gives to `dmcontrol`**, raw accesses apart. -/
theorem issues_perform {op : Operation} (cooked : op.IsCooked) :
    Issues op.controls (op.perform (τ := Traced τ)) := by
  obtain ⟨no_write, no_read, no_expect⟩ := cooked
  cases op with
  | writeDmi address data => exact absurd rfl (no_write address data)
  | readDmi address => exact absurd rfl (no_read address)
  | expectDmi address expected mask failure => exact absurd rfl (no_expect address expected mask failure)
  | resetStickyError =>
    exact issues_done ((issues_elsewhere rfl _).bind fun _ => issues_expectNoBusError _)
  | hardResetDtm =>
    exact issues_done ((issues_elsewhere rfl _).bind fun _ => issues_expectNoBusError _)
  | activateDm => exact issues_done issues_activateDm
  | deactivateDm => exact issues_done issues_deactivateDm
  | resetDm => exact issues_done (issues_deactivateDm.bind fun _ => issues_activateDm)
  | resetTap => exact issues_done (issues_elsewhere rfl _)
  | readIdcode => exact issues_readIdcode.map _
  | expectIdcode expected => exact issues_done (issues_expectIdcode expected)
  | diagnose => exact issues_diagnose.map _
  | writeRegister name value width => exact issues_done (issues_writeRegister name value width)
  | readRegister name width => exact (issues_readRegister name width).map _
  | expectRegister name expected width => exact issues_done (issues_expectRegister name expected width)
  | waitForCommand => exact issues_done issues_waitForCommand
  | clearCommandError => exact issues_done issues_clearCommandError
  | dumpRegisters group width => exact (issues_dumpNames group width _).map _
  | discoverProgbufSize => exact issues_discoverProgbufSize.map _
  | halt => exact issues_done issues_halt
  | resume => exact issues_done issues_resume
  | step => exact issues_done issues_step
  | resetHart => exact issues_done issues_resetHart
  | setHaltOnReset => exact issues_done ((issues_log _ _ _).bind fun _ => issues_control _)
  | clearHaltOnReset => exact issues_done ((issues_log _ _ _).bind fun _ => issues_control _)
  | hartStatus =>
    have answers : Issues [] (hartStatus (τ := Traced τ)) :=
      (issues_readDmi (by decide)).bind fun status => issues_pure _
    exact answers.map _
  | loadProgram program => exact issues_done (issues_loadProgram program)
  | executeProgram => exact issues_done issues_executeProgram
  | setWidth width => exact issues_done (issues_modify fun _ => rfl)
  | connect => exact issues_done (issues_elsewhere rfl _)
  | disconnect => exact issues_done (issues_elsewhere rfl _)

/-! ### Sequences of operations -/

/-- Between the two sessions there were tame calls only. -/
def Tamely (s s' : Session (Traced τ)) : Prop :=
  ∃ calls, s'.transport.calls = s.transport.calls ++ calls ∧ ∀ call ∈ calls, call.IsTame

omit [Transport τ] in
theorem isTravel_tamely : Action.IsTravel (Tamely (τ := τ)) where
  refl s := ⟨[], (List.append_nil _).symm, nofun⟩
  trans := by
    rintro a b c ⟨calls, listed, tame⟩ ⟨calls', listed', tame'⟩
    refine ⟨calls ++ calls', ?_, ?_⟩
    · rw [listed', listed, List.append_assoc]
    · intro call mem
      exact (List.mem_append.1 mem).elim (tame call) (tame' call)

omit [Transport τ] in
theorem Issues.tamely {values : List Word} {x : Action DebugError (Session (Traced τ)) α}
    (h : Issues values x) : Action.Moves Tamely x := by
  intro s
  obtain ⟨calls, listed, tame, -, -⟩ := h s
  exact ⟨calls, listed, tame⟩

/-- Operations one after another make tame calls only, by induction on the operations. -/
theorem tamely_performEach {ops : List Operation} (cooked : ∀ op ∈ ops, op.IsCooked) :
    Action.Moves Tamely (performEach (σ := Traced τ) ops) := by
  induction ops with
  | nil => exact .pure isTravel_tamely []
  | cons op rest ih =>
    have first := (issues_perform (τ := τ) (cooked op List.mem_cons_self)).tamely
    have others := ih fun op' mem => cooked op' (List.mem_cons_of_mem op mem)
    apply (Action.Moves.attempt first).bind isTravel_tamely
    intro outcome
    exact others.bind isTravel_tamely fun _ => .pure isTravel_tamely _

/-- What operations one after another do on a bus. -/
structure Footprint (ops : List Operation) (s : Session τ) : Prop where
  /-- The trace by which the calls are known makes no difference to the outcomes. -/
  outcomes : ((performEach ops).exec s.traced).1 = ((performEach ops).exec s).1
  /-- Nor does it to what becomes of the transport. -/
  transport : ((performEach ops).exec s.traced).2.transport.transport =
    ((performEach ops).exec s).2.transport
  /-- Every register that is accessed is in use, at an address of seven bits. -/
  addresses : ∀ call ∈ ((performEach ops).exec s.traced).2.transport.calls,
    ∀ address, call.address? = some address → address.InUse ∧ address.toNat < 0x80
  /-- The register that is only read is not written. -/
  unwritten : ∀ data, .write .dmstatus data ∉ ((performEach ops).exec s.traced).2.transport.calls
  /-- Among the calls of each operation a value that is given to `dmcontrol` is modest, unless it is the zero
  with which the debug module is switched off; and the last one that an operation gives before it succeeds
  is calm. -/
  control : ∀ before op after, ops = before ++ op :: after →
    let start := ((performEach before).exec s.traced).2
    let ended := op.perform.exec start
    ∃ calls later, ended.2.transport.calls = start.transport.calls ++ calls ∧
      ((performEach ops).exec s.traced).2.transport.calls = ended.2.transport.calls ++ later ∧
      (∀ i data, (controlWrites calls)[i]? = some data → Dmcontrol.IsModest data ∨
        i = 0 ∧ data = 0 ∧ (op = .deactivateDm ∨ op = .resetDm)) ∧
      ∀ reply, ended.1 = .ok reply → ∀ data, (controlWrites calls).getLast? = some data →
        Dmcontrol.IsCalm data
  /-- The addresses of the operand registers are sums that do not wrap, at every width. -/
  operands : ∀ (width : TransferWidth) slot, slot < width.slots →
    (BusAddress.data slot).toNat = 0x04 + slot
  /-- So are those of the words of every program that fits, whatever has become of the limit. -/
  words : ∀ (t : Session τ) i, i < t.programLimit → (BusAddress.progbuf i).toNat = 0x20 + i

/-- **Every sequence of operations keeps within the footprint**, on every transport, whatever the transport
answers and wherever it fails; only raw accesses are left out. -/
theorem bus_footprint {ops : List Operation} (cooked : ∀ op ∈ ops, op.IsCooked) (s : Session τ) :
    Footprint ops s where
  outcomes := (exec_performEach_traced ops s).1
  transport := (exec_performEach_traced ops s).2
  addresses := by
    obtain ⟨calls, listed, tame⟩ := tamely_performEach cooked s.traced
    intro call mem address about
    rw [show _ = [] ++ calls from listed] at mem
    have used := (tame call mem).inUse about
    exact ⟨used, used.toNat_lt⟩
  unwritten := by
    obtain ⟨calls, listed, tame⟩ := tamely_performEach cooked s.traced
    intro data mem
    rw [show _ = [] ++ calls from listed] at mem
    exact (tame _ mem).unwritten data rfl
  control := by
    intro before op after split start ended
    obtain ⟨calls, listed, -, part, whole⟩ := issues_perform (cooked op (split ▸ by simp)) start
    have others : ∀ op' ∈ after, op'.IsCooked := fun op' mem => cooked op' (split ▸ by simp [mem])
    obtain ⟨later, followed, -⟩ := tamely_performEach others ended.2
    refine ⟨calls, later, listed, ?_, ?_, ?_⟩
    · rw [← followed, split, Operation.exec_performEach_append, Operation.exec_performEach_cons]
    · intro i data given
      obtain ⟨rest, all⟩ := part
      apply Operation.isModest_of_controls
      rw [← all, List.getElem?_append_left (List.getElem?_eq_some_iff.1 given).1, given]
    · intro reply answered data last
      rw [whole reply answered] at last
      exact Operation.isCalm_of_controls last
  operands := by
    intro width slot below
    have most := width.slots_le
    exact BusAddress.toNat_data_eq (by omega)
  words := by
    intro t i below
    have most : t.programLimit ≤ 16 := Nat.min_le_right _ _
    exact BusAddress.toNat_progbuf_eq (by omega)

/-- A hart that is halted and written to, on a module that is switched off and on in between. -/
theorem bus_footprint_around_reset :
    let ops : List Operation := [.halt, .resetDm, .writeRegister "sp" 7 none]
    let s : Session SimulatedModule :=
      .fresh { connected := true } {} { clock := .steady 1 (by decide) }
    (∀ op ∈ ops, op.IsCooked) ∧ Footprint ops s := by
  intro ops s
  have cooked : ∀ op ∈ ops, op.IsCooked := by
    simp [ops, Operation.IsCooked]
  exact ⟨cooked, bus_footprint cooked s⟩

end Session

end HartDebug
