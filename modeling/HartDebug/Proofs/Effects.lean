import HartDebug.Action

/-!
# What an action leaves behind

A relation between the state before an action and the state after it, however the action ends.  Where the
relation is reflexive and transitive an action has it as soon as its parts have it, so that a property of
a long action is a matter of the few accesses it is made of.

* `Action.Moves` — the action moves the state along a relation;
* `Action.Moves.bind`, `Action.Moves.forM`, `Action.Moves.attempt`, `Action.Moves.onPart` — **the parts carry
  over to the whole**;
* `Action.exec_mapM` — actions that answer and leave nothing behind;
* `Action.lawfulMonad`, `Action.mapM_cons` — the laws of a monad, and what they say of loops.
-/

namespace HartDebug.Action

variable {ε ε' σ α β : Type} {R : σ → σ → Prop}

/-- However it ends, the action moves the state along the relation. -/
def Moves (R : σ → σ → Prop) (x : Action ε σ α) : Prop :=
  ∀ s, R s (x.exec s).2

/-- A relation along which parts of an action add up. -/
structure IsTravel (R : σ → σ → Prop) : Prop where
  refl : ∀ s, R s s
  trans : ∀ {a b c}, R a b → R b c → R a c

namespace Moves

theorem of_exec {x : Action ε σ α} (h : Moves R x) {s s' : σ} {outcome : Except ε α}
    (ran : x.exec s = (outcome, s')) : R s s' := by
  have moved := h s
  rw [ran] at moved
  exact moved

theorem pure (travel : IsTravel R) (a : α) : Moves R (pure a : Action ε σ α) :=
  travel.refl

theorem throw (travel : IsTravel R) (e : ε) : Moves R (MonadExcept.throw e : Action ε σ α) :=
  travel.refl

theorem ofExcept (travel : IsTravel R) (r : Except ε α) : Moves R (Action.ofExcept r) :=
  travel.refl

theorem get (travel : IsTravel R) : Moves R (MonadState.get : Action ε σ σ) :=
  travel.refl

theorem log (travel : IsTravel R) (level : Level) (source : Source) (text : String) :
    Moves R (Action.log level source text : Action ε σ Unit) :=
  travel.refl

/-- **One action after another**: the second starts where the first has ended, or not at all. -/
theorem bind (travel : IsTravel R) {x : Action ε σ α} {f : α → Action ε σ β} (first : Moves R x)
    (second : ∀ a, Moves R (f a)) : Moves R (x >>= f) := by
  intro s
  have moved := first s
  rw [exec_bind]
  generalize x.exec s = ran at moved
  obtain ⟨outcome, s'⟩ := ran
  cases outcome with
  | error e => exact moved
  | ok a => exact travel.trans moved (second a s')

theorem map (travel : IsTravel R) {x : Action ε σ α} (f : α → β) (h : Moves R x) : Moves R (f <$> x) :=
  h.bind travel fun a => pure travel (f a)

theorem say (travel : IsTravel R) (u : Utterance) : Moves R (Action.say u : Action ε σ Unit) :=
  travel.refl

/-- A message that may or may not be said first makes no difference. -/
theorem perhapsLog (travel : IsTravel R) {c : Prop} [Decidable c] {x : Action ε σ α} (h : Moves R x)
    (level : Level) (source : Source) (text : String) :
    Moves R (if c then do Action.log level source text; x else x) := by
  split
  · exact (log travel _ _ _).bind travel fun _ => h
  · exact h

/-- What only answers after an action leaves as much behind as the action. -/
theorem of_bind_pure {x : Action ε σ α} {f : α → β} (h : Moves R (x >>= fun a => Pure.pure (f a))) :
    Moves R x := by
  intro s
  have moved := h s
  rw [exec_bind] at moved
  generalize x.exec s = ran at moved ⊢
  rcases ran with ⟨_ | a, s'⟩
  · exact moved
  · exact moved

theorem attempt {x : Action ε σ α} (h : Moves R x) : Moves R (x.attempt : Action ε' σ _) :=
  h

theorem mapError {x : Action ε σ α} (f : ε → ε') (h : Moves R x) : Moves R (x.mapError f) :=
  h

theorem modify {f : σ → σ} (h : ∀ s, R s (f s)) : Moves R (modify f : Action ε σ PUnit) :=
  h

/-- An action on a part of the state, where the whole moves as soon as the part does. -/
theorem onPart {τ : Type} {Q : τ → τ → Prop} {x : Action ε σ α} (h : Moves R x) {look : τ → σ}
    {put : σ → τ → τ} (whole : ∀ t s, R (look t) s → Q t (put s t)) : Moves Q (x.onPart look put) :=
  fun t => whole t _ (h (look t))

theorem forM (travel : IsTravel R) {f : β → Action ε σ PUnit} :
    ∀ {l : List β}, (∀ b ∈ l, Moves R (f b)) → Moves R (l.forM f)
  | [], _ => pure travel _
  | b :: l, h => by
    show Moves R (f b >>= fun _ => l.forM f)
    exact (h b List.mem_cons_self).bind travel fun _ =>
      forM travel fun c mem => h c (List.mem_cons_of_mem _ mem)

end Moves

/-- Nor does it to the outcome. -/
theorem exec_perhapsLog {c : Prop} [Decidable c] (x : Action ε σ α) (level : Level) (source : Source)
    (text : String) (s : σ) :
    (if c then do Action.log level source text; x else x).exec s = x.exec s := by
  split
  · exact exec_bind_ok (exec_log _ _ _ s) _
  · rfl

/-! ### Actions that only answer -/

/-- What each of several actions answers without leaving anything behind, they answer together. -/
theorem exec_mapM {f : β → Action ε σ α} {g : β → α} {s : σ} {l : List β}
    (answers : ∀ b ∈ l, (f b).exec s = (.ok (g b), s)) : (l.mapM f).exec s = (.ok (l.map g), s) := by
  suffices from_here : ∀ done, (List.mapM.loop f l done).exec s = (.ok (done.reverse ++ l.map g), s) from
    from_here []
  induction l with
  | nil => simp [List.mapM.loop]
  | cons b l ih =>
    intro done
    rw [List.mapM.loop, exec_bind_ok (answers b List.mem_cons_self),
      ih fun c mem => answers c (List.mem_cons_of_mem _ mem)]
    simp

/-! ### Loops -/

/-- Actions obey the laws of a monad, what they say included. -/
theorem lawfulMonad : LawfulMonad (Action ε σ) :=
  .mk' _
    (fun x => by
      funext s
      show Action.bind x (fun a => Action.pure (id a)) s = _
      unfold Action.bind Action.pure
      rcases x s with ⟨_ | a, s', said⟩
      · rfl
      · exact congrArg (Ran.mk _ _) (List.append_nil said))
    (fun a f => rfl)
    (fun x f g => by
      funext s
      show Action.bind (Action.bind x f) g s = Action.bind x (fun a => Action.bind (f a) g) s
      unfold Action.bind
      rcases x s with ⟨_ | a, s', said⟩
      · rfl
      · dsimp only
        rcases f a s' with ⟨_ | b, s'', said'⟩
        · rfl
        · exact congrArg (Ran.mk _ _) (List.append_assoc _ _ _))

/-- A loop begins with its first action and goes on with the others. -/
theorem mapM_cons (f : β → Action ε σ α) (b : β) (l : List β) :
    (b :: l).mapM f = f b >>= fun a => l.mapM f >>= fun as => pure (a :: as) := by
  have : LawfulMonad (Action ε σ) := lawfulMonad
  exact List.mapM_cons

theorem Moves.mapM (travel : IsTravel R) {f : β → Action ε σ α} {l : List β} (each : ∀ b ∈ l, Moves R (f b)) :
    Moves R (l.mapM f) := by
  induction l with
  | nil => exact .pure travel []
  | cons b l ih =>
    rw [mapM_cons]
    refine (each b List.mem_cons_self).bind travel fun a => ?_
    refine (ih fun c mem => each c (List.mem_cons_of_mem _ mem)).bind travel fun as => ?_
    exact .pure travel (a :: as)

/-- Actions one after another answer once each. -/
theorem length_of_exec_mapM {f : β → Action ε σ α} {l : List β} {as : List α} {s t : σ}
    (ran : (l.mapM f).exec s = (.ok as, t)) : as.length = l.length := by
  induction l generalizing s t as with
  | nil =>
    obtain rfl : [] = as := Except.ok.inj (Prod.mk.inj ran).1
    rfl
  | cons b l ih =>
    rw [mapM_cons] at ran
    obtain ⟨a, s', -, rest⟩ := exec_bind_eq_ok ran
    obtain ⟨others, s'', ran', done⟩ := exec_bind_eq_ok rest
    obtain rfl : a :: others = as := Except.ok.inj (Prod.mk.inj done).1
    exact congrArg (· + 1) (ih ran')

end HartDebug.Action
