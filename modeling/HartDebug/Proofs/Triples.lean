import HartDebug.Action

/-!
# What holds when an action ends

An action started where something holds ends where something else holds, which may depend on how it has
ended.  An action that is put together has the property as soon as its parts have it one after another,
each started where the one before it has ended.

* `Action.Ends` — what holds of an outcome and the state beside it;
* `Action.Triple` — an action from a condition to its ends;
* `Triple.bind`, `Triple.forM`, `Triple.attempt` — **the parts carry over to the whole**;
* `Action.Yields` — an action whose outcome is known beforehand.
-/

namespace HartDebug.Action

variable {ε ε' σ α β : Type} {pre : σ → Prop} {post : α → σ → Prop} {fails : ε → σ → Prop}

/-- One condition for answers and one for errors. -/
def Ends (post : α → σ → Prop) (fails : ε → σ → Prop) : Except ε α × σ → Prop
  | (.ok a, s) => post a s
  | (.error e, s) => fails e s

/-- Started under a condition, the action ends under one of two others. -/
def Triple (pre : σ → Prop) (x : Action ε σ α) (post : α → σ → Prop) (fails : ε → σ → Prop) : Prop :=
  ∀ s, pre s → Ends post fails (x.exec s)

/-- The two conditions, weakened. -/
theorem Ends.mono {post' : α → σ → Prop} {fails' : ε → σ → Prop} {ran : Except ε α × σ}
    (h : Ends post fails ran) (answers : ∀ a s, post a s → post' a s)
    (errors : ∀ e s, fails e s → fails' e s) : Ends post' fails' ran := by
  obtain ⟨outcome, s⟩ := ran
  cases outcome with
  | ok a => exact answers a s h
  | error e => exact errors e s h

namespace Triple

theorem pure {a : α} (h : ∀ s, pre s → post a s) : Triple pre (pure a : Action ε σ α) post fails :=
  h

theorem throw {e : ε} (h : ∀ s, pre s → fails e s) :
    Triple pre (MonadExcept.throw e : Action ε σ α) post fails :=
  h

theorem log {post : Unit → σ → Prop} (level : Level) (source : Source) (text : String)
    (h : ∀ s, pre s → post () s) : Triple pre (Action.log level source text) post fails :=
  h

theorem modify {post : PUnit → σ → Prop} {f : σ → σ} (h : ∀ s, pre s → post ⟨⟩ (f s)) :
    Triple pre (modify f : Action ε σ PUnit) post fails :=
  h

theorem ofExcept (r : Except ε α) (answers : ∀ a s, pre s → post a s)
    (errors : ∀ e s, pre s → fails e s) : Triple pre (Action.ofExcept r) post fails := by
  intro s begun
  cases r with
  | ok a => exact answers a s begun
  | error e => exact errors e s begun

/-- From less to more: a stronger start, weaker ends. -/
theorem consequence {pre' : σ → Prop} {post' : α → σ → Prop} {fails' : ε → σ → Prop}
    {x : Action ε σ α} (h : Triple pre' x post' fails') (start : ∀ s, pre s → pre' s)
    (answers : ∀ a s, post' a s → post a s) (errors : ∀ e s, fails' e s → fails e s) :
    Triple pre x post fails :=
  fun s begun => (h s (start s begun)).mono answers errors

/-- Actions that run alike end alike. -/
theorem congr {x y : Action ε σ α} (h : Triple pre x post fails) (alike : ∀ s, y.exec s = x.exec s) :
    Triple pre y post fails := by
  intro s begun
  rw [alike]
  exact h s begun

/-- **One action after another**: the second starts where the first has ended, or not at all. -/
theorem bind {mid : α → σ → Prop} {post : β → σ → Prop} {x : Action ε σ α} {f : α → Action ε σ β}
    (first : Triple pre x mid fails) (second : ∀ a, Triple (mid a) (f a) post fails) :
    Triple pre (x >>= f) post fails := by
  intro s begun
  have ended := first s begun
  rw [exec_bind]
  generalize x.exec s = ran at ended
  obtain ⟨outcome, s'⟩ := ran
  cases outcome with
  | ok a => exact second a s' ended
  | error e => exact ended

/-- What follows a look at the state starts at the very state that was seen. -/
theorem get_bind {post : β → σ → Prop} {f : σ → Action ε σ β}
    (h : ∀ s, pre s → Ends post fails ((f s).exec s)) : Triple pre (get >>= f) post fails :=
  h

theorem map {post : β → σ → Prop} {x : Action ε σ α} (f : α → β)
    (h : Triple pre x (fun a => post (f a)) fails) : Triple pre (f <$> x) post fails :=
  h.bind fun _ => pure fun _ ended => ended

/-- After an attempt it is known how the action has ended. -/
theorem attempt {x : Action ε σ α} {fails' : ε' → σ → Prop} (h : Triple pre x post fails) :
    Triple pre (x.attempt : Action ε' σ _) (fun outcome s => Ends post fails (outcome, s)) fails' :=
  h

/-- An action on a part of the state, where the part is found as it was put. -/
theorem onPart {part : Type} {look : σ → part} {put : part → σ → σ} (found : ∀ p s, look (put p s) = p)
    {pre : part → Prop} {post : α → part → Prop} {fails : ε → part → Prop} {x : Action ε part α}
    (h : Triple pre x post fails) :
    Triple (fun s => pre (look s)) (x.onPart look put) (fun a s => post a (look s))
      (fun e s => fails e (look s)) := by
  intro s begun
  have ended := h (look s) begun
  rw [exec_onPart]
  generalize x.exec (look s) = ran at ended
  obtain ⟨outcome, p⟩ := ran
  cases outcome with
  | ok a =>
    show post a (look (put p s))
    rw [found]
    exact ended
  | error e =>
    show fails e (look (put p s))
    rw [found]
    exact ended

/-- What every round of a loop keeps, the loop keeps. -/
theorem forM {f : β → Action ε σ PUnit} :
    ∀ {l : List β}, (∀ b ∈ l, Triple pre (f b) (fun _ => pre) fails) →
      Triple pre (l.forM f) (fun _ => pre) fails
  | [], _ => pure fun _ kept => kept
  | b :: l, h => by
    show Triple pre (f b >>= fun _ => l.forM f) _ fails
    exact (h b List.mem_cons_self).bind fun _ => forM fun c mem => h c (List.mem_cons_of_mem b mem)

theorem mapM {f : β → Action ε σ α} {l : List β} (h : ∀ b ∈ l, Triple pre (f b) (fun _ => pre) fails) :
    Triple pre (l.mapM f) (fun _ => pre) fails := by
  suffices from_here : ∀ done, Triple pre (List.mapM.loop f l done) (fun _ => pre) fails from
    from_here []
  induction l with
  | nil => exact fun done => pure fun _ kept => kept
  | cons b l ih =>
    intro done
    refine (h b List.mem_cons_self).bind fun a => ?_
    exact ih (fun c mem => h c (List.mem_cons_of_mem b mem)) (a :: done)

end Triple

/-! ### Outcomes that are known -/

/-- Started under a condition, the action ends under another with an outcome that is known. -/
def Yields (pre : σ → Prop) (x : Action ε σ α) (outcome : Except ε α) (after : σ → Prop) : Prop :=
  ∀ s, pre s → ∃ s', x.exec s = (outcome, s') ∧ after s'

namespace Yields

variable {mid after : σ → Prop} {outcome : Except ε α} {x : Action ε σ α}

/-- An action that leaves the state as it is. -/
theorem of_exec (h : ∀ s, x.exec s = (outcome, s)) : Yields pre x outcome pre :=
  fun s begun => ⟨s, h s, begun⟩

theorem log (level : Level) (source : Source) (text : String) :
    Yields pre (Action.log level source text : Action ε σ Unit) (.ok ()) pre :=
  of_exec fun _ => rfl

theorem ofExcept (r : Except ε α) : Yields pre (Action.ofExcept r : Action ε σ α) r pre :=
  of_exec (exec_ofExcept r)

theorem bind {f : α → Action ε σ β} {a : α} {outcome : Except ε β} (first : Yields pre x (.ok a) mid)
    (second : Yields mid (f a) outcome after) : Yields pre (x >>= f) outcome after := by
  intro s begun
  obtain ⟨s', ran, between⟩ := first s begun
  obtain ⟨s'', ran', ended⟩ := second s' between
  exact ⟨s'', by rw [exec_bind_ok ran, ran'], ended⟩

theorem map (f : α → β) (h : Yields pre x outcome after) :
    Yields pre (f <$> x) (outcome.map f) after := by
  intro s begun
  obtain ⟨s', ran, ended⟩ := h s begun
  exact ⟨s', by rw [exec_map, ran], ended⟩

theorem attempt (h : Yields pre x outcome after) :
    Yields pre (x.attempt : Action ε' σ _) (.ok outcome) after := by
  intro s begun
  obtain ⟨s', ran, ended⟩ := h s begun
  exact ⟨s', by rw [exec_attempt, ran], ended⟩

/-- An action on a part of the state, where the part is found as it was put. -/
theorem onPart {part : Type} {look : σ → part} {put : part → σ → σ} (found : ∀ p s, look (put p s) = p)
    {pre after : part → Prop} {x : Action ε part α} (h : Yields pre x outcome after) :
    Yields (fun s => pre (look s)) (x.onPart look put) outcome (fun s => after (look s)) := by
  intro s begun
  obtain ⟨p, ran, ended⟩ := h (look s) begun
  refine ⟨put p s, by rw [exec_onPart, ran], ?_⟩
  show after (look (put p s))
  rw [found]
  exact ended

end Yields

end HartDebug.Action
