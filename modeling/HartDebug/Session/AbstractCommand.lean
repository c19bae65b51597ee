import HartDebug.Session.BusAccess

/-!
# Waiting for abstract commands

An abstract command runs on its own after it was asked for.  A live transport looks at `abstractcs`
until the command has finished or its time is over; the others let the target run for a while and record
the expectation that it has finished.

* `pollUntil` — look until the command has finished or an instant has passed;
* `waitForCommand` — wait, and fail with the error that the command left;
* `clearCommandError` — make room for the next command after an error.
-/

namespace HartDebug.Session

variable {τ : Type} [Transport τ]

/-- A read leaves everything but the transport as it was. -/
theorem readDmi_timer (address : BusAddress) (s : Session τ) :
    ((readDmi address).exec s).2.timer = s.timer := by
  unfold readDmi
  rw [Action.exec_bind]
  unfold onTransport
  rw [Action.exec_onPart]
  cases (Action.exec (Bus.read address) s.transport).1 <;> rfl

/-- Look at the clock. -/
def lookAtClock : Action DebugError (Session τ) Nat := do
  let s ← get
  set { s with timer := s.timer.looked }
  pure s.timer.now

/-- Wait before the next look at the debug module. -/
def pause : Action DebugError (Session τ) Unit := do
  let interval := (← get).config.pollInterval
  Action.log .trace .abstractCommand s!"Abstract command busy, retrying in {interval.text}"
  modify fun s => { s with timer := s.timer.wait interval }

/-- Look at `abstractcs` once: what it holds if the busy bit is clear, and otherwise nothing after a
pause, unless the clock has reached the instant `deadline` by then. -/
def pollOnce (deadline : Nat) : Action DebugError (Session τ) (Option Word) := do
  let abstractcs ← readDmi .abstractcs
  if Abstractcs.busy.isSet abstractcs then
    let now ← lookAtClock
    if deadline ≤ now then
      failLogged .abstractCommand (.busyTimeout (← get).config.busyTimeout)
    else
      pause
      pure none
  else
    pure (some abstractcs)

/-- A look that ends in a pause has brought the deadline nearer. -/
theorem looksLeft_pollOnce (deadline : Nat) (s : Session τ)
    (h : ((pollOnce deadline).exec s).1 = .ok none) :
    ((pollOnce deadline).exec s).2.timer.looksLeft deadline < s.timer.looksLeft deadline := by
  have timer := readDmi_timer .abstractcs s
  revert h
  unfold pollOnce
  rw [Action.exec_bind]
  generalize (readDmi .abstractcs).exec s = looked at timer ⊢
  obtain ⟨e | abstractcs, t⟩ := looked
  · intro h
    cases h
  · dsimp only at timer ⊢
    split
    · unfold lookAtClock
      simp only [Action.exec_bind, Action.exec_get, Action.exec_set, Action.exec_pure]
      split
      · intro h
        cases h
      · intro _
        rw [← timer]
        unfold pause
        simp only [Action.exec_bind, Action.exec_get, Action.exec_log, Action.exec_modify,
          Action.exec_pure]
        exact Timer.looksLeft_lt _ _ _ (by omega)
    · intro h
      cases h

/-- Look at `abstractcs` until the busy bit is clear, or it is set and the clock shows the instant
`deadline` or a later one. -/
def pollUntil (deadline : Nat) (s : Session τ) : Ran DebugError (Session τ) Word :=
  let look := pollOnce deadline s
  match _h : look.outcome with
  | .error e => ⟨.error e, look.state, look.said⟩
  | .ok (some abstractcs) => ⟨.ok abstractcs, look.state, look.said⟩
  | .ok none =>
    let rest := pollUntil deadline look.state
    ⟨rest.outcome, rest.state, look.said ++ rest.said⟩
termination_by s.timer.looksLeft deadline
decreasing_by exact looksLeft_pollOnce deadline s _h

/-- Look at `abstractcs` until the command has finished, for as long as the settings allow. -/
def pollAbstractcs : Action DebugError (Session τ) Word := do
  let started ← lookAtClock
  pollUntil (started + (← get).config.busyTimeout.nanoseconds)

/-- Wait for the command in flight, and fail with the error that it left. -/
def waitForCommand : Action DebugError (Session τ) Unit := do
  if (← get).isLive then
    let abstractcs ← pollAbstractcs
    match CommandError.ofAbstractcs abstractcs with
    | .none => pure ()
    | error => throw (.command error)
  else
    onTransport (Transport.idle (← get).config.settleCycles)
    expectDmi .abstractcs 0 Abstractcs.unfinished "abstract command did not complete cleanly"

/-- Acknowledge the error of an abstract command, so that another one can be asked for. -/
def clearCommandError : Action DebugError (Session τ) Unit := do
  writeDmi .abstractcs Abstractcs.cmderr.mask
  if (← get).isLive then
    let abstractcs ← pollAbstractcs
    match CommandError.ofAbstractcs abstractcs with
    | .none => pure ()
    | error => failLogged .abstractCommand (.protocol (.commandError error))
  else
    expectDmi .abstractcs 0 Abstractcs.cmderr.mask "abstract command error did not clear"

end HartDebug.Session
