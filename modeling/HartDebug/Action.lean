import HartDebug.Log

/-!
# Actions

An action runs on a state and may fail; a failing action keeps what it did to the state up to then, as a
debug module keeps what was written to it.  Besides its outcome an action leaves what it said.  What was
said before is not part of an action's input, so an outcome never depends on it.

* `Ran` — what one run leaves;
* `Action` — the monad, with `throw`, `tryCatch` and the state;
* `Action.attempt` — go on after a failure, with the outcome as a value;
* `Action.onPart` — run on a part of a larger state;
* `Action.exec` — outcome and state alone.
-/

namespace HartDebug

/-- What one run of an action leaves. -/
structure Ran (ε σ α : Type) where
  outcome : Except ε α
  state : σ
  said : List Utterance

/-- An action on a state `σ` that may fail with an `ε`. -/
def Action (ε σ α : Type) : Type :=
  σ → Ran ε σ α

namespace Action

variable {ε ε' σ τ α β : Type}

/-- Run an action. -/
def run (x : Action ε σ α) (s : σ) : Ran ε σ α :=
  x s

/-- Outcome and state of a run. -/
def exec (x : Action ε σ α) (s : σ) : Except ε α × σ :=
  ((x.run s).outcome, (x.run s).state)

protected def pure (a : α) : Action ε σ α :=
  fun s => ⟨.ok a, s, []⟩

/-- Run `x` and then, unless it failed, what follows it. -/
protected def bind (x : Action ε σ α) (f : α → Action ε σ β) : Action ε σ β :=
  fun s =>
    let first := x s
    match first.outcome with
    | .error e => ⟨.error e, first.state, first.said⟩
    | .ok a =>
      let second := f a first.state
      ⟨second.outcome, second.state, first.said ++ second.said⟩

instance : Monad (Action ε σ) where
  pure := Action.pure
  bind := Action.bind

instance : MonadExceptOf ε (Action ε σ) where
  throw e := fun s => ⟨.error e, s, []⟩
  tryCatch x handle := fun s =>
    let first := x s
    match first.outcome with
    | .ok a => ⟨.ok a, first.state, first.said⟩
    | .error e =>
      let second := handle e first.state
      ⟨second.outcome, second.state, first.said ++ second.said⟩

instance : MonadStateOf σ (Action ε σ) where
  get := fun s => ⟨.ok s, s, []⟩
  set s' := fun _ => ⟨.ok (), s', []⟩
  modifyGet f := fun s => ⟨.ok (f s).1, (f s).2, []⟩

/-- Fail or not, as given. -/
def ofExcept (r : Except ε α) : Action ε σ α :=
  fun s => ⟨r, s, []⟩

/-- Run an action to its end whether or not it fails. -/
def attempt (x : Action ε σ α) : Action ε' σ (Except ε α) :=
  fun s =>
    let ran := x s
    ⟨.ok ran.outcome, ran.state, ran.said⟩

/-- Report failures in other terms. -/
def mapError (f : ε → ε') (x : Action ε σ α) : Action ε' σ α :=
  fun s =>
    let ran := x s
    ⟨ran.outcome.mapError f, ran.state, ran.said⟩

/-- Run an action on a part of the state. -/
def onPart (get : σ → τ) (put : τ → σ → σ) (x : Action ε τ α) : Action ε σ α :=
  fun s =>
    let ran := x (get s)
    ⟨ran.outcome, put ran.state s, ran.said⟩

/-- Say something. -/
def say (u : Utterance) : Action ε σ Unit :=
  fun s => ⟨.ok (), s, [u]⟩

/-- Add a message to the log. -/
def log (level : Level) (source : Source) (text : String) : Action ε σ Unit :=
  say (.log ⟨level, source, text⟩)

/-- Print a line. -/
def printLine (text : String) : Action ε σ Unit :=
  say (.print (text ++ "\n"))

section Lemmas

@[simp] theorem exec_pure (a : α) (s : σ) : (pure a : Action ε σ α).exec s = (.ok a, s) := rfl

@[simp] theorem exec_throw (e : ε) (s : σ) : (throw e : Action ε σ α).exec s = (.error e, s) := rfl

@[simp] theorem exec_get (s : σ) : (get : Action ε σ σ).exec s = (.ok s, s) := rfl

@[simp] theorem exec_set (s s' : σ) : (set s' : Action ε σ PUnit).exec s = (.ok ⟨⟩, s') := rfl

@[simp] theorem exec_modify (f : σ → σ) (s : σ) :
    (modify f : Action ε σ PUnit).exec s = (.ok ⟨⟩, f s) := rfl

@[simp] theorem exec_ofExcept (r : Except ε α) (s : σ) :
    (ofExcept r : Action ε σ α).exec s = (r, s) := rfl

@[simp] theorem exec_say (u : Utterance) (s : σ) :
    (say u : Action ε σ Unit).exec s = (.ok (), s) := rfl

@[simp] theorem exec_log (level : Level) (source : Source) (text : String) (s : σ) :
    (log level source text : Action ε σ Unit).exec s = (.ok (), s) := rfl

/-- What follows an action sees its outcome and its state, and nothing of what it said. -/
theorem exec_bind (x : Action ε σ α) (f : α → Action ε σ β) (s : σ) :
    (x >>= f).exec s =
      match x.exec s with
      | (.error e, s') => (.error e, s')
      | (.ok a, s') => (f a).exec s' := by
  change (Action.bind x f).exec s = _
  unfold Action.bind exec run
  dsimp only
  cases (x s).outcome <;> rfl

theorem exec_bind_ok {x : Action ε σ α} {s s' : σ} {a : α} (h : x.exec s = (.ok a, s'))
    (f : α → Action ε σ β) : (x >>= f).exec s = (f a).exec s' := by
  rw [exec_bind, h]

theorem exec_bind_error {x : Action ε σ α} {s s' : σ} {e : ε} (h : x.exec s = (.error e, s'))
    (f : α → Action ε σ β) : (x >>= f).exec s = (.error e, s') := by
  rw [exec_bind, h]

/-- Actions that run alike run alike after another action. -/
theorem exec_bind_congr {x : Action ε σ α} {f g : α → Action ε σ β} (s : σ)
    (same : ∀ a s, (f a).exec s = (g a).exec s) : (x >>= f).exec s = (x >>= g).exec s := by
  rw [exec_bind, exec_bind]
  rcases x.exec s with ⟨_ | a, s'⟩
  · rfl
  · exact same a s'

theorem exec_bind_assoc {γ : Type} (x : Action ε σ α) (f : α → Action ε σ β) (g : β → Action ε σ γ)
    (s : σ) : ((x >>= f) >>= g).exec s = (x >>= fun a => f a >>= g).exec s := by
  rw [exec_bind, exec_bind, exec_bind]
  rcases x.exec s with ⟨_ | a, s'⟩
  · rfl
  · exact (exec_bind (f a) g s').symm

theorem exec_bind_pure (x : Action ε σ α) (s : σ) : (x >>= pure).exec s = x.exec s := by
  rw [exec_bind]
  rcases x.exec s with ⟨_ | a, s'⟩ <;> rfl

/-- What follows an action has run only if the action has not failed. -/
theorem exec_bind_eq_ok {x : Action ε σ α} {f : α → Action ε σ β} {s t : σ} {b : β}
    (h : (x >>= f).exec s = (.ok b, t)) :
    ∃ a s', x.exec s = (.ok a, s') ∧ (f a).exec s' = (.ok b, t) := by
  rw [exec_bind] at h
  rcases ran : x.exec s with ⟨outcome, s'⟩
  rw [ran] at h
  cases outcome with
  | error e => cases h
  | ok a => exact ⟨a, s', rfl, h⟩

theorem exec_map (f : α → β) (x : Action ε σ α) (s : σ) :
    (f <$> x).exec s = ((x.exec s).1.map f, (x.exec s).2) := by
  change (x >>= fun a => pure (f a)).exec s = _
  rw [exec_bind]
  cases x.exec s with
  | mk outcome state => cases outcome <;> rfl

theorem exec_map_ok {x : Action ε σ α} {s s' : σ} {a : α} (h : x.exec s = (.ok a, s')) (f : α → β) :
    (f <$> x).exec s = (.ok (f a), s') := by
  rw [exec_map, h]
  rfl

theorem exec_map_error {x : Action ε σ α} {s s' : σ} {e : ε} (h : x.exec s = (.error e, s')) (f : α → β) :
    (f <$> x).exec s = (.error e, s') := by
  rw [exec_map, h]
  rfl

theorem exec_discard_ok {x : Action ε σ α} {s s' : σ} {a : α} (h : x.exec s = (.ok a, s')) :
    (discard x).exec s = (.ok (), s') :=
  exec_map_ok h fun _ => ()

@[simp] theorem exec_attempt (x : Action ε σ α) (s : σ) :
    (x.attempt : Action ε' σ _).exec s = (.ok (x.exec s).1, (x.exec s).2) := rfl

@[simp] theorem exec_mapError (f : ε → ε') (x : Action ε σ α) (s : σ) :
    (x.mapError f).exec s = ((x.exec s).1.mapError f, (x.exec s).2) := rfl

theorem exec_mapError_eq_ok {f : ε → ε'} {x : Action ε σ α} {s s' : σ} {a : α}
    (h : (x.mapError f).exec s = (.ok a, s')) : x.exec s = (.ok a, s') := by
  rw [exec_mapError] at h
  generalize x.exec s = ran at h ⊢
  rcases ran with ⟨_ | _, _⟩
  · cases h
  · cases h
    rfl

@[simp] theorem exec_onPart (g : σ → τ) (p : τ → σ → σ) (x : Action ε τ α) (s : σ) :
    (x.onPart g p).exec s = ((x.exec (g s)).1, p (x.exec (g s)).2 s) := rfl

end Lemmas

end Action

end HartDebug
