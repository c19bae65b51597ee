import HartDebug.Proofs.Session.Traced
import HartDebug.Proofs.Target.AbstractStatus
import HartDebug.Target.Scripted
import Mathlib.Data.Nat.Find
import Mathlib.Order.Monotone.Defs

/-!
# How a command is waited for

A wait for a command is a loop over two streams that it has no hold on: what the transport answers, look by
look, and what the clock shows.  It ends at the first look that is answered otherwise than busy, and at the
first busy one after which the clock shows that the time is over; of a busy answer nothing else counts, and an
answer that is not busy counts however late it comes.

* `Bus.afterLooks`, `Bus.lookAnswer` — looks at `abstractcs` and nothing else;
* `Wait`, `Wait.EndsAt`, `Wait.outcome` — both streams together, where a wait over them ends and how;
* `Wait.endsAt_of_sameAnswer` — of a busy answer only the busy bit counts;
* `Session.exec_pollUntil_of_stays` — **a poll looks until the first look that does not stay busy in time**;
* `Session.exec_waitForCommand_of_endsAt` — the wait around it;
* `Session.waits_out` — what every wait does, on every live transport and with every clock.
-/

namespace HartDebug

variable {τ : Type}

/-! ### Looks -/

namespace Bus

variable [Bus τ]

/-- A transport after a number of looks at `abstractcs`. -/
def afterLooks : Nat → τ → τ
  | 0, t => t
  | k + 1, t => afterLooks k ((Bus.read .abstractcs).exec t).2

/-- What a look at `abstractcs` is answered after a number of others. -/
def lookAnswer (t : τ) (k : Nat) : Except DebugError Word :=
  ((Bus.read .abstractcs).exec (afterLooks k t)).1

end Bus

/-- Looks under trace are listed, and go as they do without one. -/
theorem Traced.afterLooks_eq [Transport τ] (t : τ) (calls : List TransportCall) (k : Nat) :
    Bus.afterLooks k (⟨t, calls⟩ : Traced τ) =
      ⟨Bus.afterLooks k t, calls ++ List.replicate k (.read .abstractcs)⟩ := by
  induction k generalizing t calls with
  | zero => rw [List.replicate_zero, List.append_nil]; rfl
  | succ k ih =>
    show Bus.afterLooks k (⟨((Bus.read .abstractcs).exec t).2, calls ++ [.read .abstractcs]⟩ : Traced τ) = _
    rw [ih, List.append_assoc]
    rfl

theorem Traced.lookAnswer_eq [Transport τ] (t : τ) (calls : List TransportCall) (k : Nat) :
    Bus.lookAnswer (⟨t, calls⟩ : Traced τ) k = Bus.lookAnswer t k := by
  rw [Bus.lookAnswer, Traced.afterLooks_eq]
  rfl

/-! ### Waits -/

/-- What a wait for a command has no hold on: what its looks are answered one after another, and what the
clock shows at the beginning and then at the check after each busy answer, pauses left out.  Beside it, the
settings that it goes by. -/
structure Wait where
  answer : Nat → Except DebugError Word
  reading : Nat → Nat
  interval : Duration
  timeout : Duration

namespace Wait

/-- The time that has gone by at the check after the `k`-th look, the pauses before it included. -/
def elapsed (w : Wait) (k : Nat) : Nat :=
  w.reading (k + 1) + k * w.interval.nanoseconds - w.reading 0

/-- The `k`-th look finds the command busy, with time left. -/
def GoesOn (w : Wait) (k : Nat) : Prop :=
  ∃ v, w.answer k = .ok v ∧ Abstractcs.busy.isSet v = true ∧ w.elapsed k < w.timeout.nanoseconds

/-- The `k`-th look is the first after which the wait does not go on. -/
def EndsAt (w : Wait) (k : Nat) : Prop :=
  (∀ i < k, w.GoesOn i) ∧ ¬ w.GoesOn k

/-- How a wait ends whose last look is the `k`-th: with the failure of the look, with the error that the
command has left, or out of time. -/
def outcome (w : Wait) (k : Nat) : Except DebugError Unit :=
  match w.answer k with
  | .error e => .error e
  | .ok v =>
    if Abstractcs.busy.isSet v then .error (.busyTimeout w.timeout)
    else
      match CommandError.ofAbstractcs v with
      | .none => .ok ()
      | error => .error (.command error)

/-- Two answers that differ at most in what a busy one holds beside the busy bit. -/
inductive SameAnswer : Except DebugError Word → Except DebugError Word → Prop where
  | same {answer : Except DebugError Word} : SameAnswer answer answer
  | busy {v v' : Word} (busy : Abstractcs.busy.isSet v = true) (busy' : Abstractcs.busy.isSet v' = true) :
      SameAnswer (.ok v) (.ok v')

variable {w : Wait} {k : Nat}

/-- A wait has one last look. -/
theorem EndsAt.unique {k' : Nat} (h : w.EndsAt k) (h' : w.EndsAt k') : k = k' := by
  rcases Nat.lt_trichotomy k k' with earlier | same | later
  · exact absurd (h'.1 k earlier) h.2
  · exact same
  · exact absurd (h.1 k' later) h'.2

/-- A look after which the wait does not go on is the last one, unless one before it is. -/
theorem exists_endsAt {n : Nat} (stops : ¬ w.GoesOn n) : ∃ k ≤ n, w.EndsAt k := by
  classical
  have stopping : ∃ k, ¬ w.GoesOn k := ⟨n, stops⟩
  refine ⟨Nat.find stopping, Nat.find_min' stopping stops, fun i below => ?_, Nat.find_spec stopping⟩
  exact not_not.1 (Nat.find_min stopping below)

/-- **Once the clock has reached the timeout the wait is over.** -/
theorem exists_endsAt_of_elapsed {n : Nat} (late : w.timeout.nanoseconds ≤ w.elapsed n) :
    ∃ k ≤ n, w.EndsAt k :=
  exists_endsAt fun ⟨_, _, _, early⟩ => Nat.not_lt.2 late early

/-- A wait ends well exactly if its last look finds no command busy and no error latched. -/
theorem outcome_eq_ok_iff (w : Wait) (k : Nat) : w.outcome k = .ok () ↔
    ∃ v, w.answer k = .ok v ∧ Abstractcs.busy.isSet v = false ∧ Abstractcs.cmderr.get v = 0 := by
  rw [outcome]
  cases w.answer k with
  | error e => simp
  | ok v =>
    have code : CommandError.ofAbstractcs v = .none ↔ Abstractcs.cmderr.get v = 0 :=
      SimulatedModule.ofCode_eq_none
    simp only [Except.ok.injEq, exists_eq_left', ← code]
    cases Abstractcs.busy.isSet v with
    | true => simp
    | false => cases CommandError.ofAbstractcs v <;> simp

section SameAnswer

variable {answer' : Nat → Except DebugError Word} (same : ∀ k, SameAnswer (w.answer k) (answer' k))
include same

theorem goesOn_of_sameAnswer : GoesOn { w with answer := answer' } k ↔ w.GoesOn k := by
  have alike := same k
  show (∃ v, answer' k = .ok v ∧ _ ∧ w.elapsed k < w.timeout.nanoseconds) ↔ _
  rw [GoesOn]
  generalize w.answer k = answer, answer' k = other at alike ⊢
  cases alike with
  | same => rfl
  | busy busy busy' => simp [busy, busy']

/-- **Of a busy answer only the busy bit counts** for when a wait ends. -/
theorem endsAt_of_sameAnswer : EndsAt { w with answer := answer' } k ↔ w.EndsAt k := by
  simp only [EndsAt, goesOn_of_sameAnswer same]

/-- Of a busy answer only the busy bit counts for how a wait ends. -/
theorem outcome_of_sameAnswer : outcome { w with answer := answer' } k = w.outcome k := by
  have alike := same k
  rw [outcome, outcome]
  dsimp only
  generalize w.answer k = answer, answer' k = other at alike ⊢
  cases alike with
  | same => rfl
  | busy busy busy' => simp [busy, busy']

end SameAnswer

end Wait

/-! ### Clocks -/

/-- The clock that shows given readings up to the `n`-th, and goes on from there. -/
def Clock.following (reading : Nat → Nat) (mono : Monotone reading) (n : Nat) : Clock where
  reading i := reading (min i n) + (i - n)
  mono {i j} h := by
    have shown : reading (min i n) ≤ reading (min j n) := mono (by omega)
    omega
  unbounded instant := ⟨instant + n, by omega⟩

/-- The next looks at the clock, up to the `n`-th after the first, show the readings. -/
def Timer.Shows (t : Timer) (reading : Nat → Nat) (n : Nat) : Prop :=
  ∀ i ≤ n, t.clock.reading (t.looks + i) = reading i

namespace Session

/-- The session with another clock. -/
def withClock (s : Session τ) (clock : Clock) : Session τ :=
  { s with timer := { s.timer with clock := clock } }

/-- What the session's own clock shows from now on. -/
def readings (s : Session τ) (i : Nat) : Nat :=
  s.timer.clock.reading (s.timer.looks + i)

theorem monotone_readings (s : Session τ) : Monotone s.readings :=
  fun _ _ h => s.timer.clock.mono (Nat.add_le_add_left h _)

/-- There is a clock that shows the readings for as long as is needed. -/
theorem exists_shows {reading : Nat → Nat} (mono : Monotone reading) (s : Session τ) (n : Nat) :
    ∃ clock, (s.withClock clock).timer.Shows reading n := by
  have shifted : Monotone fun i => reading (i - s.timer.looks) := fun i j h => mono (by omega)
  refine ⟨.following _ shifted (s.timer.looks + n), fun i within => ?_⟩
  show reading (min (s.timer.looks + i) (s.timer.looks + n) - s.timer.looks) +
    (s.timer.looks + i - (s.timer.looks + n)) = reading i
  rw [Nat.min_eq_left (by omega), Nat.add_sub_cancel_left, Nat.sub_eq_zero_of_le (by omega), Nat.add_zero]

variable [Transport τ]

/-- A wait that begins now, with given readings of the clock. -/
def wait (s : Session τ) (reading : Nat → Nat) : Wait where
  answer := Bus.lookAnswer s.transport
  reading := reading
  interval := s.config.pollInterval
  timeout := s.config.busyTimeout

/-! ### Looking until the time is over -/

/-- One look, by what it is answered and by what the clock then shows. -/
theorem exec_pollOnce (deadline : Nat) (s : Session τ) :
    (pollOnce deadline).exec s =
      match (Bus.read .abstractcs).exec s.transport with
      | (.error e, t) => (.error e, s.withTransport t)
      | (.ok v, t) =>
        if Abstractcs.busy.isSet v then
          if deadline ≤ s.timer.now then
            (.error (.busyTimeout s.config.busyTimeout),
              { s with transport := t, timer := s.timer.looked })
          else
            (.ok none,
              { s with transport := t, timer := s.timer.looked.wait s.config.pollInterval })
        else (.ok (some v), s.withTransport t) := by
  rw [pollOnce, Action.exec_bind, exec_readDmi_of_read]
  rcases (Bus.read .abstractcs).exec s.transport with ⟨e | v, t⟩
  · rfl
  · dsimp only
    split
    · unfold lookAtClock pause
      simp only [Action.exec_bind, Action.exec_get, Action.exec_set, Action.exec_pure]
      show Action.exec (if deadline ≤ s.timer.now then _ else _) _ = _
      split
      · exact exec_failLogged _ _ _
      · rfl
    · rfl

/-- The `k`-th look finds the command busy, and the clock then shows an instant before the deadline. -/
def StaysBusy (s : Session τ) (deadline k : Nat) : Prop :=
  ∃ v, Bus.lookAnswer s.transport k = .ok v ∧ Abstractcs.busy.isSet v = true ∧
    s.timer.clock.reading (s.timer.looks + k) + s.timer.waited +
      k * s.config.pollInterval.nanoseconds < deadline

/-- How a poll ends with its last look: a busy answer has come too late. -/
def lastLook (timeout : Duration) (answer : Except DebugError Word) : Except DebugError Word :=
  match answer with
  | .error e => .error e
  | .ok v => if Abstractcs.busy.isSet v then .error (.busyTimeout timeout) else .ok v

/-- The session after a look that was followed by a pause. -/
def afterLook (s : Session τ) : Session τ :=
  { s with
    transport := Bus.afterLooks 1 s.transport
    timer := s.timer.looked.wait s.config.pollInterval }

theorem exec_pollOnce_of_stays {deadline : Nat} {s : Session τ} (stays : s.StaysBusy deadline 0) :
    (pollOnce deadline).exec s = (.ok none, s.afterLook) := by
  obtain ⟨v, answer, busy, early⟩ := stays
  have in_time : ¬ deadline ≤ s.timer.now := by
    rw [Nat.zero_mul] at early
    exact Nat.not_le.2 early
  have looked : (Bus.read .abstractcs).exec s.transport = (.ok v, Bus.afterLooks 1 s.transport) :=
    Prod.ext answer rfl
  rw [exec_pollOnce, looked]
  dsimp only
  rw [if_pos busy, if_neg in_time, afterLook]

theorem exec_pollOnce_of_stops {deadline : Nat} {s : Session τ} (stops : ¬ s.StaysBusy deadline 0) :
    ∃ timer, (pollOnce deadline).exec s =
      ((lastLook s.config.busyTimeout (Bus.lookAnswer s.transport 0)).map some,
        { s with transport := Bus.afterLooks 1 s.transport, timer := timer }) := by
  have looked : (Bus.read .abstractcs).exec s.transport =
      (Bus.lookAnswer s.transport 0, Bus.afterLooks 1 s.transport) := rfl
  rw [exec_pollOnce, looked]
  cases answer : Bus.lookAnswer s.transport 0 with
  | error e => exact ⟨s.timer, rfl⟩
  | ok v =>
    dsimp only [lastLook]
    split
    · next busy =>
      have late : deadline ≤ s.timer.now := by
        refine Nat.not_lt.1 fun early => stops ⟨v, answer, busy, ?_⟩
        rw [Nat.zero_mul]
        exact early
      rw [if_pos late]
      exact ⟨s.timer.looked, rfl⟩
    · exact ⟨s.timer, rfl⟩

/-- A look later is a look earlier from then on. -/
theorem staysBusy_afterLook (s : Session τ) (deadline k : Nat) :
    s.afterLook.StaysBusy deadline k ↔ s.StaysBusy deadline (k + 1) := by
  have shown : s.timer.clock.reading (s.timer.looks + 1 + k) +
      (s.timer.waited + s.config.pollInterval.nanoseconds) + k * s.config.pollInterval.nanoseconds =
      s.timer.clock.reading (s.timer.looks + (k + 1)) + s.timer.waited +
        (k + 1) * s.config.pollInterval.nanoseconds := by
    rw [show s.timer.looks + 1 + k = s.timer.looks + (k + 1) by omega, Nat.add_mul]
    omega
  show (∃ v, _ ∧ _ ∧ s.timer.clock.reading (s.timer.looks + 1 + k) +
    (s.timer.waited + s.config.pollInterval.nanoseconds) + k * s.config.pollInterval.nanoseconds < deadline) ↔ _
  rw [shown]
  rfl

/-- **A poll looks until the first look that does not stay busy in time.**  The induction is on the looks
before that one; each of them ends in a pause, and what is left is a poll that begins later. -/
theorem exec_pollUntil_of_stays {deadline k : Nat} {s : Session τ}
    (stays : ∀ i < k, s.StaysBusy deadline i) (stops : ¬ s.StaysBusy deadline k) :
    ∃ timer, Action.exec (pollUntil deadline) s =
      (lastLook s.config.busyTimeout (Bus.lookAnswer s.transport k),
        { s with transport := Bus.afterLooks (k + 1) s.transport, timer := timer }) := by
  induction k generalizing s with
  | zero =>
    obtain ⟨timer, looked⟩ := exec_pollOnce_of_stops stops
    rw [exec_pollUntil, looked]
    cases lastLook s.config.busyTimeout (Bus.lookAnswer s.transport 0) <;> exact ⟨timer, rfl⟩
  | succ k ih =>
    obtain ⟨timer, rest⟩ := ih (s := s.afterLook)
      (fun i below => (staysBusy_afterLook s deadline i).2 (stays (i + 1) (by omega)))
      (fun busy => stops ((staysBusy_afterLook s deadline k).1 busy))
    rw [exec_pollUntil, exec_pollOnce_of_stays (stays 0 (Nat.succ_pos k))]
    exact ⟨timer, rest⟩

/-! ### The wait -/

/-- A look of a wait goes on exactly if it stays busy until the deadline of the poll. -/
theorem staysBusy_iff_goesOn {s : Session τ} {reading : Nat → Nat} (mono : Monotone reading) {k : Nat}
    (shows : s.timer.Shows reading (k + 1)) :
    StaysBusy { s with timer := s.timer.looked } (s.timer.now + s.config.busyTimeout.nanoseconds) k ↔
      (s.wait reading).GoesOn k := by
  have first : s.timer.clock.reading s.timer.looks = reading 0 := shows 0 (Nat.zero_le _)
  have here : s.timer.clock.reading (s.timer.looks + 1 + k) = reading (k + 1) := by
    rw [Nat.add_assoc, Nat.add_comm 1 k]
    exact shows (k + 1) (Nat.le_refl _)
  have later : reading 0 ≤ reading (k + 1) := mono (Nat.zero_le _)
  refine exists_congr fun v => and_congr_right fun _ => and_congr_right fun _ => ?_
  show s.timer.clock.reading (s.timer.looks + 1 + k) + s.timer.waited +
      k * s.config.pollInterval.nanoseconds <
        s.timer.clock.reading s.timer.looks + s.timer.waited + s.config.busyTimeout.nanoseconds ↔
    reading (k + 1) + k * s.config.pollInterval.nanoseconds - reading 0 < s.config.busyTimeout.nanoseconds
  rw [first, here]
  omega

/-- The session's own clock ends every wait. -/
theorem exists_endsAt_readings (s : Session τ) : ∃ k, (s.wait s.readings).EndsAt k := by
  obtain ⟨n, reached⟩ := s.timer.clock.unbounded
    (s.readings 0 + s.config.busyTimeout.nanoseconds)
  have late : (s.wait s.readings).timeout.nanoseconds ≤ (s.wait s.readings).elapsed n := by
    have later : s.timer.clock.reading n ≤ s.readings (n + 1) := s.timer.clock.mono (by omega)
    show s.config.busyTimeout.nanoseconds ≤
      s.readings (n + 1) + n * s.config.pollInterval.nanoseconds - s.readings 0
    omega
  obtain ⟨k, -, ends⟩ := Wait.exists_endsAt_of_elapsed late
  exact ⟨k, ends⟩

/-- A poll for the command in flight makes the looks of the wait. -/
theorem exec_pollAbstractcs_of_endsAt {s : Session τ} {reading : Nat → Nat} (mono : Monotone reading)
    {k : Nat} (ends : (s.wait reading).EndsAt k) (shows : s.timer.Shows reading (k + 1)) :
    ∃ timer, pollAbstractcs.exec s = (lastLook s.config.busyTimeout (Bus.lookAnswer s.transport k),
      { s with transport := Bus.afterLooks (k + 1) s.transport, timer := timer }) := by
  have part {i : Nat} (within : i ≤ k) : s.timer.Shows reading (i + 1) :=
    fun j below => shows j (by omega)
  exact exec_pollUntil_of_stays (s := { s with timer := s.timer.looked })
    (fun i below => (staysBusy_iff_goesOn mono (part (Nat.le_of_lt below))).2 (ends.1 i below))
    (fun busy => ends.2 ((staysBusy_iff_goesOn mono shows).1 busy))

/-- **A wait makes its looks and ends as the last of them says**; only the transport and the time have moved
on by then. -/
theorem exec_waitForCommand_of_endsAt {s : Session τ} (live : s.isLive = true) {reading : Nat → Nat}
    (mono : Monotone reading) {k : Nat} (ends : (s.wait reading).EndsAt k)
    (shows : s.timer.Shows reading (k + 1)) :
    ∃ timer, waitForCommand.exec s = ((s.wait reading).outcome k,
      { s with transport := Bus.afterLooks (k + 1) s.transport, timer := timer }) := by
  obtain ⟨timer, polled⟩ := exec_pollAbstractcs_of_endsAt mono ends shows
  refine ⟨timer, ?_⟩
  have answer : (s.wait reading).answer k = Bus.lookAnswer s.transport k := rfl
  rw [waitForCommand, Action.exec_bind_ok (Action.exec_get s), if_pos live, Action.exec_bind, polled,
    Wait.outcome, answer]
  cases Bus.lookAnswer s.transport k with
  | error e => rfl
  | ok v =>
    dsimp only [lastLook]
    by_cases busy : Abstractcs.busy.isSet v = true
    · rw [if_pos busy, if_pos busy]
      rfl
    · rw [if_neg busy, if_neg busy]
      dsimp only
      cases CommandError.ofAbstractcs v <;> rfl

theorem wait_traced (s : Session τ) (reading : Nat → Nat) : s.traced.wait reading = s.wait reading := by
  have answers : Bus.lookAnswer s.traced.transport = Bus.lookAnswer s.transport :=
    funext fun k => Traced.lookAnswer_eq s.transport [] k
  rw [wait, answers]
  rfl

/-- What a wait for a command comes to, if it is met with the given readings of the clock. -/
structure WaitsOut (s : Session τ) (reading : Nat → Nat) : Prop where
  /-- There is a clock that shows these readings, for as long as it is looked at. -/
  clock : ∀ n, ∃ clock, (s.withClock clock).timer.Shows reading n
  /-- Once the clock has reached the timeout the wait is over. -/
  terminates : ∀ n, s.config.busyTimeout.nanoseconds ≤ (s.wait reading).elapsed n →
    ∃ k ≤ n, (s.wait reading).EndsAt k
  /-- With every clock that shows these readings up to the last check, the wait makes its looks, calls nothing
  else, and ends as the last look says. -/
  ended : ∀ k clock, (s.wait reading).EndsAt k → (s.withClock clock).timer.Shows reading (k + 1) →
    (waitForCommand.exec (s.withClock clock)).1 = (s.wait reading).outcome k ∧
    (waitForCommand.exec (s.withClock clock)).2.transport = Bus.afterLooks (k + 1) s.transport ∧
    (waitForCommand.exec (s.withClock clock).traced).1 = (s.wait reading).outcome k ∧
    (waitForCommand.exec (s.withClock clock).traced).2.transport =
      ⟨Bus.afterLooks (k + 1) s.transport, List.replicate (k + 1) (.read .abstractcs)⟩
  /-- It succeeds exactly if the last look finds no command busy and no error latched. -/
  ok_iff : ∀ k, (s.wait reading).outcome k = .ok () ↔ ∃ v, Bus.lookAnswer s.transport k = .ok v ∧
    Abstractcs.busy.isSet v = false ∧ Abstractcs.cmderr.get v = 0
  /-- The session's own clock passes every instant, so that every wait has a last look, and only one. -/
  own : ∃! k, (s.wait s.readings).EndsAt k
  /-- What a busy answer holds beside the busy bit makes no difference. -/
  busyBit : ∀ t, Bus.isLive t = true →
    (∀ k, Wait.SameAnswer (Bus.lookAnswer s.transport k) (Bus.lookAnswer t k)) →
    (waitForCommand.exec (s.withTransport t)).1 = (waitForCommand.exec s).1 ∧
    (waitForCommand.exec (s.withTransport t).traced).2.transport.calls =
      (waitForCommand.exec s.traced).2.transport.calls

variable {s : Session τ} {reading : Nat → Nat}

/-- A wait under trace lists its looks and nothing else. -/
theorem exec_waitForCommand_traced (live : s.isLive = true) (mono : Monotone reading) {k : Nat}
    (ends : (s.wait reading).EndsAt k) (shows : s.timer.Shows reading (k + 1)) :
    (waitForCommand.exec s.traced).1 = (s.wait reading).outcome k ∧
    (waitForCommand.exec s.traced).2.transport =
      ⟨Bus.afterLooks (k + 1) s.transport, List.replicate (k + 1) (.read .abstractcs)⟩ := by
  rw [← wait_traced] at ends ⊢
  obtain ⟨timer, ran⟩ := exec_waitForCommand_of_endsAt (s := s.traced) live mono ends shows
  rw [ran]
  exact ⟨rfl, Traced.afterLooks_eq s.transport [] (k + 1)⟩

/-- **What a wait comes to**, on every live transport and with every clock that does not go back. -/
theorem waits_out (live : s.isLive = true) (mono : Monotone reading) : s.WaitsOut reading where
  clock := exists_shows mono s
  terminates _ late := Wait.exists_endsAt_of_elapsed late
  ended k clock ends shows := by
    obtain ⟨timer, ran⟩ := exec_waitForCommand_of_endsAt (s := s.withClock clock) live mono ends shows
    obtain ⟨answered, listed⟩ := exec_waitForCommand_traced (s := s.withClock clock) live mono ends shows
    rw [ran]
    exact ⟨rfl, rfl, answered, listed⟩
  ok_iff k := Wait.outcome_eq_ok_iff (s.wait reading) k
  own := by
    obtain ⟨k, ends⟩ := exists_endsAt_readings s
    exact ⟨k, ends, fun _ other => other.unique ends⟩
  busyBit t live' same := by
    obtain ⟨k, ends⟩ := exists_endsAt_readings s
    have shows : s.timer.Shows s.readings (k + 1) := fun _ _ => rfl
    have ends' : ((s.withTransport t).wait s.readings).EndsAt k :=
      (Wait.endsAt_of_sameAnswer (w := s.wait s.readings) same).2 ends
    have alike : ((s.withTransport t).wait s.readings).outcome k = (s.wait s.readings).outcome k :=
      Wait.outcome_of_sameAnswer (w := s.wait s.readings) same
    obtain ⟨_, ran⟩ := exec_waitForCommand_of_endsAt live (monotone_readings s) ends shows
    obtain ⟨_, ran'⟩ := exec_waitForCommand_of_endsAt (s := s.withTransport t) live' (monotone_readings s)
      ends' shows
    have listed := (exec_waitForCommand_traced live (monotone_readings s) ends shows).2
    have listed' := (exec_waitForCommand_traced (s := s.withTransport t) live' (monotone_readings s)
      ends' shows).2
    rw [ran, ran', listed, listed']
    exact ⟨alike, rfl⟩

/-- A command whose error flickers while it is busy, on a clock that shows a nanosecond more each time: the
third look finds it finished, and only the error that stands then is reported. -/
theorem waits_out_past_flickering :
    let bus : ScriptedBus := { reads := [(.abstractcs, [.value 0x1300, .value 0x1500, .value 0x0200])] }
    let s : Session ScriptedBus := .fresh bus {} { clock := .steady 1 (by decide) }
    s.isLive = true ∧ Monotone s.readings ∧ s.WaitsOut s.readings ∧
      (s.wait s.readings).EndsAt 2 ∧
      (s.wait s.readings).outcome 2 = .error (.command .notSupported) := by
  intro bus s
  have goes_on : ∀ i < 2, (s.wait s.readings).GoesOn i := by
    intro i below
    match i, below with
    | 0, _ => exact ⟨0x1300, by decide, by decide, by decide⟩
    | 1, _ => exact ⟨0x1500, by decide, by decide, by decide⟩
  have finished : ¬ (s.wait s.readings).GoesOn 2 := by
    rintro ⟨v, answer, busy, -⟩
    have found : (s.wait s.readings).answer 2 = .ok 0x0200 := by decide
    rw [found, Except.ok.injEq] at answer
    subst answer
    exact absurd busy (by decide)
  exact ⟨rfl, monotone_readings s, waits_out rfl (monotone_readings s), ⟨goes_on, finished⟩, by decide⟩

end Session

end HartDebug
