import HartDebug.Duration

/-!
# Clocks

Time as an answer from outside: a clock gives a reading each time it is looked at, never goes back, and
passes every instant if it is looked at often enough.  The time a session itself lets pass by waiting is
kept apart and added.

* `Clock` — the readings, as data;
* `Clock.steady`, `Clock.recorded` — a clock that always advances alike, and one that was read before;
* `Timer` — a clock in use, with the number of looks taken at it and the time waited;
* `Timer.looksLeft_lt` — looking at a clock that has not reached an instant brings the instant nearer.
  It is what makes waiting for something with a deadline end.
-/

namespace HartDebug

/-- The readings of a clock in nanoseconds, by the number of looks taken before. -/
structure Clock where
  reading : Nat → Nat
  mono : ∀ {m n : Nat}, m ≤ n → reading m ≤ reading n
  unbounded : ∀ instant : Nat, ∃ n, instant ≤ reading n

namespace Clock

/-- The clock that advances by the same step between any two looks. -/
def steady (step : Nat) (step_pos : 0 < step) : Clock where
  reading n := n * step
  mono h := Nat.mul_le_mul_right step h
  unbounded instant := ⟨instant, Nat.le_mul_of_pos_right instant step_pos⟩

/-- The latest of some instants. -/
def latest : List Nat → Nat
  | [] => 0
  | r :: rest => max r (latest rest)

theorem latest_take_le {m n : Nat} (readings : List Nat) (h : m ≤ n) :
    latest (readings.take m) ≤ latest (readings.take n) := by
  induction readings generalizing m n with
  | nil => simp
  | cons r rest ih =>
    cases m with
    | zero => exact Nat.zero_le _
    | succ m =>
      cases n with
      | zero => omega
      | succ n =>
        have := ih (Nat.le_of_succ_le_succ h)
        simp only [List.take_succ_cons, latest]
        omega

/-- The clock that shows recorded readings, and the latest of them after they have run out.  Each look
takes a nanosecond. -/
def recorded (readings : List Nat) : Clock where
  reading n := latest (readings.take (n + 1)) + n
  mono h := Nat.add_le_add (latest_take_le readings (Nat.succ_le_succ h)) h
  unbounded instant := ⟨instant, Nat.le_add_left _ _⟩

end Clock

/-- A clock in use. -/
structure Timer where
  clock : Clock
  /-- How often the clock has been looked at. -/
  looks : Nat := 0
  /-- How many nanoseconds were spent waiting. -/
  waited : Nat := 0

namespace Timer

/-- What the next look shows. -/
def now (t : Timer) : Nat :=
  t.clock.reading t.looks + t.waited

/-- The timer after a look. -/
def looked (t : Timer) : Timer :=
  { t with looks := t.looks + 1 }

/-- The timer after waiting. -/
def wait (t : Timer) (d : Duration) : Timer :=
  { t with waited := t.waited + d.nanoseconds }

/-- A bound on how many more looks stay below an instant. -/
noncomputable def looksLeft (t : Timer) (instant : Nat) : Nat :=
  Classical.choose (t.clock.unbounded instant) - t.looks

theorem looksLeft_lt (t : Timer) (instant : Nat) (d : Duration) (h : t.now < instant) :
    (t.looked.wait d).looksLeft instant < t.looksLeft instant := by
  have reached := Classical.choose_spec (t.clock.unbounded instant)
  have below : t.looks < Classical.choose (t.clock.unbounded instant) := by
    refine Nat.lt_of_not_le fun hle => ?_
    have := t.clock.mono hle
    unfold now at h
    omega
  change Classical.choose (t.clock.unbounded instant) - (t.looks + 1) <
    Classical.choose (t.clock.unbounded instant) - t.looks
  omega

end Timer

end HartDebug
