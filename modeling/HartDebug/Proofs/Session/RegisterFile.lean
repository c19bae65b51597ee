import HartDebug.Proofs.Effects
import HartDebug.Proofs.Session.Places
import HartDebug.Proofs.Session.Polling
import HartDebug.Proofs.Target.Commands
import HartDebug.Session.Operation

/-!
# The registers behind a session

Reads and writes of hart registers over a session are reads and writes of a register file: by whatever
name and at whatever width a register is written, what is read from it later is the value that was written
last, as far as the bits of the read go.

* `exec_writeRegister`, `exec_readRegister` — **one call on a module that takes commands**;
* `RegisterCall`, `heldAfter` — calls as data, and what a register holds after them;
* `Session.Follows` — what a run of calls leaves in force;
* `registerFile_of_calls` — **a sequence of calls acts on the register file and on nothing else**.
-/

namespace HartDebug

namespace Session

open SimulatedModule (Ready)

variable {s : Session SimulatedModule}

/-! ### One call -/

/-- Writes to the bus one after another. -/
theorem exec_forM_writeDmi (h : s.transport.connected = true) (address : Nat → BusAddress)
    (word : Nat → Word) (l : List Nat) :
    (l.forM fun i => writeDmi (address i) (word i)).exec s =
      (.ok (), s.withTransport (l.foldl (fun m i => m.writeBus (address i) (word i)) s.transport)) := by
  induction l generalizing s with
  | nil => rfl
  | cons i l ih =>
    have same := SimulatedModule.setUpAlike_writeBus s.transport (address i) (word i)
    show Action.exec (writeDmi (address i) (word i) >>= fun _ =>
      l.forM fun i => writeDmi (address i) (word i)) s = _
    rw [Action.exec_bind_ok (exec_writeDmi h (address i) (word i)), ih (same.connected.trans h)]
    rfl

/-- A command that leaves no error is waited for. -/
theorem exec_moveRegister {m : SimulatedModule} {place : Place} {isWrite : Bool}
    (connected : s.transport.connected = true)
    (moved : s.transport.execute (AccessRegister.move place.register.number place.width isWrite) = m)
    (clear : m.cmderr = 0) (drains : (s.withTransport m).DrainsInTime) (free : m.stuckBusy = false) :
    (moveRegister place isWrite).exec s = (.ok (), (s.withTransport m).polled) := by
  have same := SimulatedModule.setUpAlike_writeBus s.transport .command
    (AccessRegister.move place.register.number place.width isWrite)
  rw [SimulatedModule.writeBus_command, moved] at same
  have fits : m.ErrorFits := by
    rw [SimulatedModule.ErrorFits, clear]
    decide
  rw [moveRegister, Action.exec_bind_ok (exec_writeDmi connected _ _), SimulatedModule.writeBus_command,
    moved, exec_waitForCommand (same.connected.trans connected) fits free drains]
  exact congrArg (fun outcome => (outcome, (s.withTransport m).polled)) (if_pos clear)

variable {name : String} {width : Option TransferWidth} {place : Place}

/-- A command that is started now drains within the time that the settings allow. -/
def StartsInTime (s : Session SimulatedModule) : Prop :=
  (s.withTransport s.transport.started).DrainsInTime

/-- **A write** stores the value under the number of the register. -/
theorem exec_writeRegister {value : Value} (connected : s.transport.connected = true)
    (ready : s.transport.Ready) (located : s.locate name width = .ok place)
    (known : place.register.number ∉ s.transport.unimplemented) (fits : value.Fits place.bits)
    (drains : s.StartsInTime) :
    (writeRegister name value width).exec s =
      (.ok (), (s.withTransport
        ((s.transport.holding value place.width.slots).started.storing place.register.number
          value)).polled) := by
  have slots := place.width.slots_le
  have most := place.width.bits_le
  have whole : value &&& Value.lowMask place.width.bits = value :=
    Value.and_lowMask_of_fits fits (bits_le_of_locate located) most
  have moved := SimulatedModule.execute_write ready known value place.width
  rw [whole] at moved
  rw [writeRegister, Action.exec_bind_ok (exec_locateFor located fits),
    Action.exec_bind_ok (Action.exec_log _ _ _ s), Action.exec_bind_ok (exec_forM_writeDmi connected _ _ _),
    SimulatedModule.foldl_writeBus_data s.transport value slots,
    exec_moveRegister (s := s.withTransport (s.transport.holding value place.width.slots)) connected moved
      ready.clear drains ready.free]
  rfl

/-- Reads of the operand registers one after another. -/
theorem exec_mapM_readDmi {t : Session SimulatedModule} (connected : t.transport.connected = true)
    {value : Value} {slots : Nat} (most : slots ≤ 4)
    (held : ∀ slot (inside : slot < 4), slot < slots → t.transport.data[slot] = value.word slot) :
    ((List.range slots).mapM fun slot => readDmi (.data slot)).exec t =
      (.ok ((List.range slots).map value.word), t) := by
  refine Action.exec_mapM fun slot mem => ?_
  have below := List.mem_range.1 mem
  rw [exec_readDmi connected, SimulatedModule.readBus_data _ (by omega : slot < 4)]
  exact congrArg (fun w => (Except.ok w, t)) (held slot (by omega) below)

/-- The words of a value carry all bits that count. -/
theorem ofWords_words_of_locate (located : s.locate name width = .ok place) (value : Value) :
    Value.ofWords ((List.range place.width.slots).map value.word) &&& Value.lowMask place.bits =
      value &&& Value.lowMask place.bits := by
  have slots := place.width.slots_le
  have most := place.width.bits_le
  rw [Value.ofWords_words value slots, ← place.width.bits_eq_slots,
    Value.and_lowMask_and_lowMask value (bits_le_of_locate located) most]

/-- **A read** answers the low bits of what the register holds. -/
theorem exec_readRegister (connected : s.transport.connected = true) (ready : s.transport.Ready)
    (located : s.locate name width = .ok place)
    (known : place.register.number ∉ s.transport.unimplemented) (drains : s.StartsInTime) :
    (readRegister name width).exec s =
      (.ok (s.transport.registers.get place.register.number &&& Value.lowMask place.bits),
        (s.withTransport (s.transport.started.holding
          (s.transport.registers.get place.register.number) place.width.slots)).polled) := by
  have moved := SimulatedModule.execute_read ready known place.width
  generalize s.transport.registers.get place.register.number = value at *
  have fetched := exec_mapM_readDmi
    (t := (s.withTransport (s.transport.started.holding value place.width.slots)).polled) connected
    place.width.slots_le fun slot inside below =>
      (SimulatedModule.getElem_holding _ value _ slot inside).trans (if_pos below)
  rw [exec_readRegister_of_located (isLive_module s) located,
    Action.exec_bind_ok (exec_moveRegister connected moved ready.clear drains ready.free),
    Action.exec_map_ok fetched, ofWords_words_of_locate located]

end Session

/-! ### Calls in a row -/

/-- A call that writes or reads one register. -/
inductive RegisterCall where
  | write (name : String) (value : Value) (width : Option TransferWidth)
  | read (name : String) (width : Option TransferWidth)
  deriving DecidableEq, Repr

namespace RegisterCall

def name : RegisterCall → String
  | .write name _ _ => name
  | .read name _ => name

def width : RegisterCall → Option TransferWidth
  | .write _ _ width => width
  | .read _ width => width

/-- The operation that the call is. -/
def operation : RegisterCall → Operation
  | .write name value width => .writeRegister name value width
  | .read name width => .readRegister name width

/-- A value that the call carries fits a number of bits. -/
def Fits (bits : Nat) : RegisterCall → Prop
  | .write _ value _ => value.Fits bits
  | .read _ _ => True

/-- The value that the call stores under a number. -/
def stores? (number : RegisterNumber) : RegisterCall → Option Value
  | .write name value _ =>
    if (Catalog.standard.resolve? name).map (·.number) = some number then some value else none
  | .read _ _ => none

/-- The value that calls have stored last under a number, by whatever name. -/
def lastStored? (number : RegisterNumber) : List RegisterCall → Option Value
  | [] => none
  | c :: rest => (lastStored? number rest).or (c.stores? number)

/-- What a register holds after calls: what they have stored last, or else what it held before. -/
def heldAfter (initial : RegisterFile) (calls : List RegisterCall) (number : RegisterNumber) : Value :=
  (lastStored? number calls).getD (initial.get number)

theorem lastStored?_append (number : RegisterNumber) (before after : List RegisterCall) :
    lastStored? number (before ++ after) =
      (lastStored? number after).or (lastStored? number before) := by
  induction before with
  | nil => simp [lastStored?]
  | cons c before ih => rw [List.cons_append, lastStored?, ih, lastStored?, Option.or_assoc]

/-- One more call stores a value or leaves what is held. -/
theorem heldAfter_snoc (initial : RegisterFile) (before : List RegisterCall) (c : RegisterCall)
    (number : RegisterNumber) :
    heldAfter initial (before ++ [c]) number =
      (c.stores? number).getD (heldAfter initial before number) := by
  rw [heldAfter, heldAfter, lastStored?_append, lastStored?, lastStored?, Option.none_or]
  cases c.stores? number <;> rfl

/-- What a call is to answer: a write is done, and a read has the low bits of what the register holds. -/
def Answered (initial : RegisterFile) (before : List RegisterCall) (place : Session.Place) :
    RegisterCall → Operation.Reply → Prop
  | .write _ _ _, reply => reply = .done
  | .read _ _, reply => ∃ value, reply = .value value ∧
      value.toNat = (heldAfter initial before place.register.number).toNat % 2 ^ place.bits

end RegisterCall

namespace SimulatedModule

/-- Nothing but one register, the operand registers and the handling of commands has changed. -/
structure ChangedAt (number : RegisterNumber) (m m' : SimulatedModule) : Prop where
  registers : ∀ n, n ≠ number → m'.registers.get n = m.registers.get n
  progbuf : m'.progbuf = m.progbuf
  dmactive : m'.dmactive = m.dmactive
  halted : m'.halted = m.halted
  resumeAcknowledged : m'.resumeAcknowledged = m.resumeAcknowledged
  haveReset : m'.haveReset = m.haveReset
  haltOnReset : m'.haltOnReset = m.haltOnReset

variable {number : RegisterNumber}

theorem ChangedAt.trans {a b c : SimulatedModule} (h : ChangedAt number a b) (h' : ChangedAt number b c) :
    ChangedAt number a c :=
  ⟨fun n other => (h'.1 n other).trans (h.1 n other), h'.2.trans h.2, h'.3.trans h.3, h'.4.trans h.4,
    h'.5.trans h.5, h'.6.trans h.6, h'.7.trans h.7⟩

theorem changedAt_holding (m : SimulatedModule) (value : Value) (slots : Nat) :
    m.ChangedAt number (m.holding value slots) :=
  ⟨fun _ _ => rfl, rfl, rfl, rfl, rfl, rfl, rfl⟩

theorem changedAt_started (m : SimulatedModule) : m.ChangedAt number m.started :=
  ⟨fun _ _ => rfl, rfl, rfl, rfl, rfl, rfl, rfl⟩

theorem changedAt_storing (m : SimulatedModule) (number : RegisterNumber) (value : Value) :
    m.ChangedAt number (m.storing number value) :=
  ⟨fun n other => (RegisterFile.get_set _ number n value).trans (if_neg (Ne.symm other)),
    rfl, rfl, rfl, rfl, rfl, rfl⟩

theorem changedAt_polled (s : Session SimulatedModule) : s.transport.ChangedAt number s.polled.transport :=
  ⟨fun _ _ => rfl, rfl, rfl, rfl, rfl, rfl, rfl⟩

end SimulatedModule

namespace Session

open RegisterCall

/-- A session takes a call: the name is one of the catalog, the module has the register, and a value that
is carried fits the bits that count. -/
structure Admits (s : Session SimulatedModule) (c : RegisterCall) : Prop where
  known : Catalog.standard.Knows c.name
  implemented : ∀ place, s.locate c.name c.width = .ok place →
    place.register.number ∉ s.transport.unimplemented
  fits : ∀ place, s.locate c.name c.width = .ok place → c.Fits place.bits

/-- What a call takes, put together from the register of its name. -/
theorem Admits.of_resolve {s : Session SimulatedModule} {c : RegisterCall} {register : Register}
    (resolved : Catalog.standard.resolve c.name = .ok register)
    (implemented : register.number ∉ s.transport.unimplemented)
    (fits : c.Fits ((register.widthOverride.getD (c.width.getD s.width).bits).min
      (c.width.getD s.width).bits)) : s.Admits c := by
  refine ⟨Catalog.knows_of_resolve resolved, fun place located => ?_, fun place located => ?_⟩
  · obtain ⟨found, -, -⟩ := locate_eq_ok located
    obtain rfl := Except.ok.inj (resolved.symm.trans found)
    exact implemented
  · obtain ⟨found, width, bits⟩ := locate_eq_ok located
    obtain rfl := Except.ok.inj (resolved.symm.trans found)
    rw [bits, width]
    exact fits

/-- The reads that see the command of the `k`-th call from now on busy come before its deadline.  Each call
before it has looked at the clock once at the beginning, and once for each read that saw it busy. -/
def DrainsAt (s : Session SimulatedModule) (k : Nat) : Prop :=
  ∀ i < s.transport.busyReads,
    s.timer.clock.reading (s.timer.looks + k * (s.transport.busyReads + 1) + 1 + i) +
        i * s.config.pollInterval.nanoseconds <
      s.timer.clock.reading (s.timer.looks + k * (s.transport.busyReads + 1)) +
        s.config.busyTimeout.nanoseconds

/-- What is in force after calls: the settings as before, a module that takes commands, the clock further
on, and registers that hold what was stored in them last. -/
structure Follows (s : Session SimulatedModule) (before : List RegisterCall)
    (s' : Session SimulatedModule) : Prop where
  config : s'.config = s.config
  width : s'.width = s.width
  setUp : s.transport.SetUpAlike s'.transport
  ready : s'.transport.Ready
  clock : s'.timer.clock = s.timer.clock
  looks : s'.timer.looks = s.timer.looks + before.length * (s.transport.busyReads + 1)
  held : ∀ n, s'.transport.registers.get n = heldAfter s.transport.registers before n

variable {s s' : Session SimulatedModule} {before : List RegisterCall} {c : RegisterCall} {place : Place}

theorem Follows.start (ready : s.transport.Ready) : s.Follows [] s :=
  ⟨rfl, rfl, .refl _, ready, rfl, by simp, fun _ => rfl⟩

theorem Follows.locate_eq (h : s.Follows before s') (name : String) (width : Option TransferWidth) :
    s'.locate name width = s.locate name width := by
  rw [locate, locate, h.width]

theorem Follows.startsInTime (h : s.Follows before s') (drains : s.DrainsAt before.length) :
    s'.StartsInTime := by
  intro i below
  have reads : i < s'.transport.busyReads := below
  rw [h.setUp.busyReads] at reads
  have early := drains i reads
  show s'.timer.clock.reading (s'.timer.looks + 1 + i) + s'.timer.waited +
    i * s'.config.pollInterval.nanoseconds <
      s'.timer.clock.reading s'.timer.looks + s'.timer.waited + s'.config.busyTimeout.nanoseconds
  rw [h.clock, h.looks, h.config]
  omega

/-- A call that has run its command to the end goes on as the calls before it did. -/
theorem Follows.polled (h : s.Follows before s') {m : SimulatedModule}
    (setUp : s'.transport.SetUpAlike m) (clear : m.cmderr = 0) (left : m.busyLeft = m.busyReads)
    (held : ∀ n, m.registers.get n = (c.stores? n).getD (s'.transport.registers.get n)) :
    s.Follows (before ++ [c]) (s'.withTransport m).polled := by
  refine ⟨h.config, h.width, h.setUp.trans (setUp.trans ⟨rfl, rfl, rfl, rfl, rfl, rfl, rfl⟩),
    ⟨clear, Nat.sub_self _, setUp.stuckBusy.trans h.ready.free⟩, h.clock, ?_, fun n => ?_⟩
  · show s'.timer.looks + 1 + m.busyLeft = _
    rw [left, setUp.busyReads, h.setUp.busyReads, h.looks, List.length_append, Nat.add_mul,
      List.length_singleton, Nat.one_mul]
    omega
  · show m.registers.get n = _
    rw [held n, h.held n, heldAfter_snoc]

/-- A write stores its value under the number of its place, and under no other. -/
theorem stores?_write {name : String} {width : Option TransferWidth}
    (located : s.locate name width = .ok place) (value : Value) (n : RegisterNumber) :
    stores? n (.write name value width) = if place.register.number = n then some value else none := by
  have resolved : Catalog.standard.resolve? name = some place.register := by
    have found := (locate_eq_ok located).1
    rw [Catalog.resolve] at found
    cases known : Catalog.standard.resolve? name with
    | none =>
      rw [known] at found
      cases found
    | some register =>
      rw [known] at found
      exact congrArg some (Except.ok.inj found)
  rw [stores?, resolved, Option.map_some]
  simp only [Option.some.injEq]

/-- **One more write** stores its value, and is logged. -/
theorem Follows.write (h : s.Follows before s') (connected : s.transport.connected = true) {name : String}
    {value : Value} {width : Option TransferWidth} (located : s.locate name width = .ok place)
    (implemented : place.register.number ∉ s.transport.unimplemented) (fits : value.Fits place.bits)
    (drains : s.DrainsAt before.length) :
    ∃ s'', (writeRegister name value width).exec s' = (.ok (), s'') ∧
      s.Follows (before ++ [.write name value width]) s'' ∧
      s'.transport.ChangedAt place.register.number s''.transport ∧
      s''.transport.registerWrites = s'.transport.registerWrites ++ [(place.register.number, value)] := by
  rw [← h.setUp.unimplemented] at implemented
  refine ⟨_, exec_writeRegister (h.setUp.connected.trans connected) h.ready
    ((h.locate_eq name width).trans located) implemented fits (h.startsInTime drains), ?_, ?_, rfl⟩
  · have setUp := ((SimulatedModule.setUpAlike_holding s'.transport value place.width.slots).trans
      (SimulatedModule.setUpAlike_started _)).trans
        (SimulatedModule.setUpAlike_storing _ place.register.number value)
    refine h.polled setUp h.ready.clear rfl fun n => ?_
    rw [stores?_write located]
    refine (RegisterFile.get_set _ _ n value).trans ?_
    split <;> rfl
  · have stored := ((SimulatedModule.changedAt_holding s'.transport value place.width.slots).trans
      (SimulatedModule.changedAt_started _)).trans
        (SimulatedModule.changedAt_storing _ place.register.number value)
    exact stored.trans (SimulatedModule.changedAt_polled (s'.withTransport _))

/-- **One more read** answers what the register holds, and is not logged. -/
theorem Follows.read (h : s.Follows before s') (connected : s.transport.connected = true) {name : String}
    {width : Option TransferWidth} (located : s.locate name width = .ok place)
    (implemented : place.register.number ∉ s.transport.unimplemented)
    (drains : s.DrainsAt before.length) :
    ∃ s'', (readRegister name width).exec s' =
        (.ok (s'.transport.registers.get place.register.number &&& Value.lowMask place.bits), s'') ∧
      s.Follows (before ++ [.read name width]) s'' ∧
      s'.transport.ChangedAt place.register.number s''.transport ∧
      s''.transport.registerWrites = s'.transport.registerWrites := by
  rw [← h.setUp.unimplemented] at implemented
  refine ⟨_, exec_readRegister (h.setUp.connected.trans connected) h.ready
    ((h.locate_eq name width).trans located) implemented (h.startsInTime drains), ?_, ?_, rfl⟩
  · have setUp := (SimulatedModule.setUpAlike_started s'.transport).trans
      (SimulatedModule.setUpAlike_holding _ (s'.transport.registers.get place.register.number)
        place.width.slots)
    exact h.polled setUp h.ready.clear rfl fun n => rfl
  · have fetched : s'.transport.ChangedAt place.register.number (s'.transport.started.holding
        (s'.transport.registers.get place.register.number) place.width.slots) :=
      (SimulatedModule.changedAt_started _).trans (SimulatedModule.changedAt_holding _ _ _)
    exact fetched.trans (SimulatedModule.changedAt_polled (s'.withTransport _))

/-- **One more call** succeeds, answers as it should and changes one register at most. -/
theorem Follows.step (h : s.Follows before s') (connected : s.transport.connected = true)
    (admits : s.Admits c) (drains : s.DrainsAt before.length) :
    ∃ place reply s'', s.locate c.name c.width = .ok place ∧
      c.operation.perform.exec s' = (.ok reply, s'') ∧
      s.Follows (before ++ [c]) s'' ∧
      c.Answered s.transport.registers before place reply ∧
      s'.transport.ChangedAt place.register.number s''.transport := by
  obtain ⟨register, resolved⟩ := Catalog.exists_resolve_standard admits.known
  obtain ⟨place, located⟩ := exists_locate (s := s) resolved c.width
  have implemented := admits.implemented place located
  have fits := admits.fits place located
  refine ⟨place, ?_⟩
  cases c with
  | write name value width =>
    obtain ⟨s'', written, follows, changed, -⟩ := h.write connected located implemented fits drains
    exact ⟨.done, s'', located, Action.exec_bind_ok written _, follows, rfl, changed⟩
  | read name width =>
    obtain ⟨s'', read, follows, changed, -⟩ := h.read connected located implemented drains
    refine ⟨.value _, s'', located, Action.exec_map_ok read _, follows, ⟨_, rfl, ?_⟩, changed⟩
    rw [h.held, Value.toNat_and_lowMask _ (bits_le_of_locate_most located)]

/-- **A run of calls** gets through; the induction is on the calls, each of which goes on from those
before it. -/
theorem Follows.run (h : s.Follows before s') (connected : s.transport.connected = true)
    {calls : List RegisterCall} (admits : ∀ c ∈ calls, s.Admits c)
    (drains : ∀ k < before.length + calls.length, s.DrainsAt k) :
    ∃ replies s'', (Operation.performAll (calls.map (·.operation))).exec s' = (.ok replies, s'') ∧
      s.Follows (before ++ calls) s'' := by
  induction calls generalizing before s' with
  | nil => exact ⟨[], s', rfl, by rw [List.append_nil]; exact h⟩
  | cons c rest ih =>
    rw [List.length_cons] at drains
    obtain ⟨_, reply, next, _, performed, follows, _, _⟩ :=
      h.step connected (admits c List.mem_cons_self) (drains before.length (by omega))
    have further : ∀ k < (before ++ [c]).length + rest.length, s.DrainsAt k := by
      intro k below
      rw [List.length_append, List.length_singleton] at below
      exact drains k (by omega)
    obtain ⟨replies, s'', ran, arrived⟩ :=
      ih follows (fun d mem => admits d (List.mem_cons_of_mem c mem)) further
    refine ⟨reply :: replies, s'', ?_, ?_⟩
    · rw [List.map_cons, Operation.performAll, Action.exec_bind_ok performed, Action.exec_bind_ok ran]
      rfl
    · rw [List.append_assoc] at arrived
      exact arrived

/-- **A sequence of calls acts on the register file and on nothing else.**  Over a connected module with
no error and nothing busy, every call of the sequence succeeds; a read answers what was stored last under
the number of its register, by whatever name and at whatever width, as far as its own bits go; and each
call leaves the other registers, the program buffer and the run control of the hart as they were. -/
theorem registerFile_of_calls (s : Session SimulatedModule) (connected : s.transport.connected = true)
    (clear : s.transport.cmderr = 0) (idle : s.transport.busyLeft = 0)
    (free : s.transport.stuckBusy = false) (calls : List RegisterCall)
    (admits : ∀ c ∈ calls, s.Admits c) (drains : ∀ k < calls.length, s.DrainsAt k) :
    (∃ replies s', (Operation.performAll (calls.map (·.operation))).exec s = (.ok replies, s') ∧
      ∀ n, s'.transport.registers.get n = heldAfter s.transport.registers calls n) ∧
    ∀ before c after, calls = before ++ c :: after →
      ∃ replies s' place reply s'',
        (Operation.performAll (before.map (·.operation))).exec s = (.ok replies, s') ∧
        s.locate c.name c.width = .ok place ∧
        c.operation.perform.exec s' = (.ok reply, s'') ∧
        c.Answered s.transport.registers before place reply ∧
        s'.transport.ChangedAt place.register.number s''.transport := by
  have start : s.Follows [] s := .start ⟨clear, idle, free⟩
  constructor
  · obtain ⟨replies, s', ran, arrived⟩ := start.run connected admits (by simpa using drains)
    exact ⟨replies, s', ran, arrived.held⟩
  · rintro before c after rfl
    rw [List.length_append, List.length_cons] at drains
    have admits_before : ∀ d ∈ before, s.Admits d := fun d mem => admits d (List.mem_append_left _ mem)
    obtain ⟨replies, s', ran, arrived⟩ := start.run connected admits_before fun k below =>
      drains k (by rw [List.length_nil] at below; omega)
    obtain ⟨place, reply, s'', located, performed, _, answered, changed⟩ :=
      arrived.step connected (admits c (List.mem_append_right _ List.mem_cons_self))
        (drains before.length (by omega))
    exact ⟨replies, s', place, reply, s'', ran, located, performed, answered, changed⟩

/-- The stack pointer written by one name and read by another at half the width, and a register of 32 bits
written at 128, over a module whose commands are seen busy twice. -/
theorem registerFile_of_calls_by_alias :
    let m : SimulatedModule := { connected := true, busyReads := 2, unimplemented := [0x7a0] }
    let s : Session SimulatedModule := .fresh m {} { clock := .steady 1 (by decide) }
    let calls : List RegisterCall :=
      [.write "sp" 0x100000005 none, .read "X2" (some .w32), .write "INSTRM" 7 (some .w128)]
    (∀ c ∈ calls, s.Admits c) ∧ (∀ k < calls.length, s.DrainsAt k) ∧
      (∃ replies s', (Operation.performAll (calls.map (·.operation))).exec s = (.ok replies, s') ∧
        ∀ n, s'.transport.registers.get n = heldAfter s.transport.registers calls n) ∧
      ∀ before c after, calls = before ++ c :: after →
        ∃ replies s' place reply s'',
          (Operation.performAll (before.map (·.operation))).exec s = (.ok replies, s') ∧
          s.locate c.name c.width = .ok place ∧
          c.operation.perform.exec s' = (.ok reply, s'') ∧
          c.Answered s.transport.registers before place reply ∧
          s'.transport.ChangedAt place.register.number s''.transport := by
  intro m s calls
  have listed : ("X2", 0x1002) ∈ Catalog.Standard.registers := by decide +kernel
  have x2 : Catalog.standard.resolve "X2" = .ok ⟨"X2", 0x1002, none⟩ :=
    Catalog.resolve_of_canonical listed
  have sp : Catalog.standard.resolve "sp" = .ok ⟨"X2", 0x1002, none⟩ :=
    Catalog.resolve_of_alias (by decide +kernel) listed
  have probe : Catalog.standard.resolve "INSTRM" = .ok ⟨"INSTRM", 0xc002, some 32⟩ :=
    Catalog.resolve_of_canonical (by decide +kernel)
  have admits : ∀ c ∈ calls, s.Admits c := by
    intro c mem
    simp only [calls, List.mem_cons, List.not_mem_nil, or_false] at mem
    rcases mem with rfl | rfl | rfl
    · exact .of_resolve sp (by decide) (by decide : Value.Fits 64 (0x100000005 : Value))
    · exact .of_resolve x2 (by decide) trivial
    · exact .of_resolve probe (by decide) (by decide : Value.Fits 32 (7 : Value))
  have drains : ∀ k < calls.length, s.DrainsAt k := by
    intro k _ i reads
    have twice : i < 2 := reads
    show (0 + k * (2 + 1) + 1 + i) * 1 + i * 50000000 < (0 + k * (2 + 1)) * 1 + 2000000000
    omega
  exact ⟨admits, drains, registerFile_of_calls s rfl rfl rfl rfl calls admits drains⟩

end Session

end HartDebug
