import HartDebug.Action

/-!
# Actions side by side

Two actions on states of different kinds, run from states that are related: they answer alike, or fail
alike, and leave states that are related again.  What is built in the same way from such actions is such
again.

* `Action.Simulates` — the relation between two actions;
* `Simulates.bind`, `Simulates.attempt`, `Simulates.forM`, `Simulates.mapM` — **what is built alike runs
  alike**;
* `Simulates.onPart` — on parts of larger states.
-/

namespace HartDebug.Action

variable {ε ε' σ τ σ' τ' α β : Type} {R : σ → τ → Prop}

/-- From related states the actions have the same outcome and leave related states. -/
def Simulates (R : σ → τ → Prop) (x : Action ε σ α) (y : Action ε τ α) : Prop :=
  ∀ s t, R s t → (x.exec s).1 = (y.exec t).1 ∧ R (x.exec s).2 (y.exec t).2

namespace Simulates

theorem of_exec {x : Action ε σ α} {y : Action ε τ α}
    (h : ∀ s t, R s t → ∃ outcome s' t', x.exec s = (outcome, s') ∧ y.exec t = (outcome, t') ∧ R s' t') :
    Simulates R x y := by
  intro s t related
  obtain ⟨outcome, s', t', ran, ran', after⟩ := h s t related
  rw [ran, ran']
  exact ⟨rfl, after⟩

theorem pure (a : α) : Simulates R (pure a : Action ε σ α) (pure a) :=
  fun _ _ related => ⟨rfl, related⟩

theorem throw (e : ε) : Simulates R (throw e : Action ε σ α) (MonadExcept.throw e) :=
  fun _ _ related => ⟨rfl, related⟩

theorem ofExcept (r : Except ε α) : Simulates R (Action.ofExcept r) (Action.ofExcept r) :=
  fun _ _ related => ⟨rfl, related⟩

theorem log (level : Level) (source : Source) (text : String) :
    Simulates R (Action.log level source text : Action ε σ Unit) (Action.log level source text) :=
  fun _ _ related => ⟨rfl, related⟩

theorem modify {f : σ → σ} {g : τ → τ} (h : ∀ s t, R s t → R (f s) (g t)) :
    Simulates R (modify f : Action ε σ PUnit) (modify g) :=
  fun s t related => ⟨rfl, h s t related⟩

theorem set {s' : σ} {t' : τ} (h : R s' t') : Simulates R (set s' : Action ε σ PUnit) (set t') :=
  fun _ _ _ => ⟨rfl, h⟩

/-- What follows two actions that end alike where they have been started. -/
theorem bind_at {x : Action ε σ α} {y : Action ε τ α} {f : α → Action ε σ β} {g : α → Action ε τ β}
    {s : σ} {t : τ} (first : (x.exec s).1 = (y.exec t).1 ∧ R (x.exec s).2 (y.exec t).2)
    (second : ∀ a, Simulates R (f a) (g a)) :
    ((x >>= f).exec s).1 = ((y >>= g).exec t).1 ∧ R ((x >>= f).exec s).2 ((y >>= g).exec t).2 := by
  obtain ⟨same, after⟩ := first
  rw [exec_bind, exec_bind]
  generalize x.exec s = ran at same after
  generalize y.exec t = ran' at same after
  obtain ⟨outcome, s'⟩ := ran
  obtain ⟨outcome', t'⟩ := ran'
  obtain rfl : outcome = outcome' := same
  cases outcome with
  | error e => exact ⟨rfl, after⟩
  | ok a => exact second a s' t' after

/-- **One action after another**: where the first fails, it fails on both sides. -/
theorem bind {x : Action ε σ α} {y : Action ε τ α} {f : α → Action ε σ β} {g : α → Action ε τ β}
    (first : Simulates R x y) (second : ∀ a, Simulates R (f a) (g a)) :
    Simulates R (x >>= f) (y >>= g) :=
  fun s t related => bind_at (first s t related) second

/-- What follows a look at the state may rely on the states being related. -/
theorem get_bind {f : σ → Action ε σ β} {g : τ → Action ε τ β}
    (h : ∀ s t, R s t → Simulates R (f s) (g t)) : Simulates R (get >>= f) (get >>= g) :=
  fun s t related => h s t related s t related

theorem map {x : Action ε σ α} {y : Action ε τ α} (h : Simulates R x y) (f : α → β) :
    Simulates R (f <$> x) (f <$> y) :=
  h.bind fun a => pure (f a)

theorem attempt {x : Action ε σ α} {y : Action ε τ α} (h : Simulates R x y) :
    Simulates R (x.attempt : Action ε' σ _) (y.attempt : Action ε' τ _) := by
  intro s t related
  obtain ⟨same, after⟩ := h s t related
  exact ⟨congrArg Except.ok same, after⟩

theorem mapError {x : Action ε σ α} {y : Action ε τ α} (h : Simulates R x y) (f : ε → ε') :
    Simulates R (x.mapError f) (y.mapError f) := by
  intro s t related
  obtain ⟨same, after⟩ := h s t related
  exact ⟨congrArg (·.mapError f) same, after⟩

theorem forM {f : β → Action ε σ PUnit} {g : β → Action ε τ PUnit} (h : ∀ b, Simulates R (f b) (g b)) :
    ∀ l : List β, Simulates R (l.forM f) (l.forM g)
  | [] => pure _
  | b :: l => by
    show Simulates R (f b >>= fun _ => l.forM f) (g b >>= fun _ => l.forM g)
    exact (h b).bind fun _ => forM h l

theorem mapM {f : β → Action ε σ α} {g : β → Action ε τ α} (h : ∀ b, Simulates R (f b) (g b))
    (l : List β) : Simulates R (l.mapM f) (l.mapM g) := by
  suffices from_here : ∀ done, Simulates R (List.mapM.loop f l done) (List.mapM.loop g l done) from
    from_here []
  induction l with
  | nil => exact fun done => pure done.reverse
  | cons b l ih => exact fun done => (h b).bind fun a => ih (a :: done)

/-- On parts of larger states that are related as soon as the parts are. -/
theorem onPart {Q : σ' → τ' → Prop} {x : Action ε σ α} {y : Action ε τ α} (h : Simulates R x y)
    {get : σ' → σ} {put : σ → σ' → σ'} {get' : τ' → τ} {put' : τ → τ' → τ'}
    (part : ∀ s t, Q s t → R (get s) (get' t))
    (whole : ∀ s t, Q s t → ∀ a b, R a b → Q (put a s) (put' b t)) :
    Simulates Q (x.onPart get put) (y.onPart get' put') := by
  intro s t related
  obtain ⟨same, after⟩ := h (get s) (get' t) (part s t related)
  exact ⟨same, whole s t related _ _ after⟩

end Simulates

end HartDebug.Action
