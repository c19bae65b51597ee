import HartDebug.Proofs.Effects
import HartDebug.Proofs.Session.Traced
import HartDebug.Proofs.Triples

/-!
# Calls one after another

The calls that an action makes on its transport, in order, with what became of them.  A call that fails is the
last one, and its error is that of the action; the calls before it have all been answered.

* `TransportCall.Made` — calls made one after another, from one state of the transport to another;
* `Made.append`, `Made.split` — calls after calls;
* `Session.Makes` — the calls of one run on a session under trace;
* `Session.Conducts` — an action that makes the calls of a plan, up to the first that fails;
* `Conducts.bind`, `conducts_forM` — **one action after another conducts one plan after another**.
-/

namespace HartDebug

open Action (Ends IsTravel Moves)

variable {τ α β : Type} [Transport τ]

namespace TransportCall

/-! ### Calls on a transport -/

/-- Calls made one after another on a transport.  If there is an error it is that of the last of them. -/
inductive Made : τ → List TransportCall → Option DebugError → τ → Prop where
  | none {t : τ} : Made t [] none t
  | answered {t t' t'' : τ} {call : TransportCall} {calls : List TransportCall}
      {failure : Option DebugError} {answer : Answer} (here : call.perform.exec t = (.ok answer, t'))
      (rest : Made t' calls failure t'') : Made t (call :: calls) failure t''
  | failed {t t' : τ} {call : TransportCall} {e : DebugError}
      (here : call.perform.exec t = (.error e, t')) : Made t [call] (some e) t'

variable {t t' t'' : τ} {calls calls' : List TransportCall} {failure : Option DebugError}

theorem Made.append (first : Made t calls Option.none t') (second : Made t' calls' failure t'') :
    Made t (calls ++ calls') failure t'' := by
  generalize unfailed : Option.none = failed at first
  induction first with
  | none => exact second
  | answered here _ ih => exact .answered here (ih second unfailed)
  | failed here => cases unfailed

/-- Calls with others after them have all been answered. -/
theorem Made.split (made : Made t (calls ++ calls') failure t'') (more : calls' ≠ []) :
    ∃ t', Made t calls Option.none t' ∧ Made t' calls' failure t'' := by
  induction calls generalizing t with
  | nil => exact ⟨t, .none, made⟩
  | cons call calls ih =>
    generalize all : call :: calls ++ calls' = whole at made
    cases made with
    | none => cases all
    | answered here rest =>
      obtain ⟨rfl, rfl⟩ := List.cons.inj all
      obtain ⟨t', before, after⟩ := ih rest
      exact ⟨t', .answered here before, after⟩
    | failed here =>
      obtain ⟨-, ended⟩ := List.cons.inj all
      exact absurd (List.append_eq_nil_iff.1 ended).2 more

/-- A call that fails is a call. -/
theorem Made.length_pos {e : DebugError} (made : Made t calls (some e) t') : 0 < calls.length := by
  cases made with
  | answered here rest => exact Nat.succ_pos _
  | failed here => exact Nat.succ_pos _

/-- Calls that are all answered leave one state of the transport. -/
theorem Made.unique {u u' : τ} (first : Made t calls Option.none u) (second : Made t calls Option.none u') :
    u = u' := by
  induction calls generalizing t with
  | nil =>
    cases first
    cases second
    rfl
  | cons call calls ih =>
    cases first with
    | answered here rest =>
      cases second with
      | answered here' rest' =>
        rw [here] at here'
        obtain ⟨-, rfl⟩ := Prod.mk.inj here'
        exact ih rest rest'

end TransportCall

namespace Session

open TransportCall (Made)

/-! ### Runs under trace -/

/-- The calls of one run on a session under trace.  A call that fails has ended the run with its error. -/
structure Makes (s : Session (Traced τ)) (calls : List TransportCall) (failure : Option DebugError)
    (ran : Except DebugError α × Session (Traced τ)) : Prop where
  listed : ran.2.transport.calls = s.transport.calls ++ calls
  made : Made s.transport.transport calls failure ran.2.transport.transport
  failed : ∀ e, failure = some e → ran.1 = .error e
  config : ran.2.config = s.config

variable {s s' : Session (Traced τ)} {calls calls' plan plan' : List TransportCall}
  {failure : Option DebugError}

/-- No call of a run that has answered has failed. -/
theorem Makes.answered {a : α} (h : Makes s calls failure ((.ok a : Except DebugError α), s')) :
    failure = none := by
  cases failure with
  | none => rfl
  | some e => cases h.failed e rfl

/-- A run that has answered goes on. -/
theorem Makes.andThen {a : α} {ran : Except DebugError β × Session (Traced τ)}
    (first : Makes s calls failure ((.ok a : Except DebugError α), s')) {failure' : Option DebugError}
    (second : Makes s' calls' failure' ran) : Makes s (calls ++ calls') failure' ran := by
  obtain rfl := first.answered
  refine ⟨?_, first.made.append second.made, second.failed, second.config.trans first.config⟩
  rw [second.listed, first.listed, List.append_assoc]

/-- A run that has failed answers nothing of any kind. -/
theorem Makes.stopped {e : DebugError}
    (first : Makes s calls failure ((.error e : Except DebugError α), s')) :
    Makes s calls failure ((.error e : Except DebugError β), s') := by
  refine ⟨first.listed, first.made, fun e' same => ?_, first.config⟩
  exact congrArg Except.error (Except.error.inj (first.failed e' same))

/-- **The first call that fails** is the last one, and its error is that of the run. -/
theorem Makes.first_failure {ran : Except DebugError α × Session (Traced τ)} {call : TransportCall}
    {t t' : τ} {e : DebugError} (h : Makes s (calls ++ call :: calls') failure ran)
    (before : Made s.transport.transport calls none t) (fails : call.perform.exec t = (.error e, t')) :
    calls' = [] ∧ ran.1 = .error e ∧ ran.2.transport.transport = t' := by
  obtain ⟨u, answered, rest⟩ := h.made.split (List.cons_ne_nil _ _)
  obtain rfl := before.unique answered
  cases rest with
  | answered here _ =>
    rw [fails] at here
    cases here
  | failed here =>
    rw [fails] at here
    obtain ⟨same, rfl⟩ := Prod.mk.inj here
    exact ⟨rfl, h.failed _ (by rw [Except.error.inj same]), rfl⟩

/-- A run without a call. -/
theorem makes_none {ran : Except DebugError α × Session (Traced τ)}
    (same : ran.2.transport = s.transport) (config : ran.2.config = s.config) : Makes s [] none ran := by
  refine ⟨?_, ?_, nofun, config⟩
  · rw [same, List.append_nil]
  · rw [same]
    exact .none

/-- Neither the transport nor the settings have changed. -/
def Still (s t : Session (Traced τ)) : Prop :=
  t.transport = s.transport ∧ t.config = s.config

omit [Transport τ] in
theorem isTravel_still : IsTravel (Still (τ := τ)) where
  refl _ := ⟨rfl, rfl⟩
  trans first second := ⟨second.1.trans first.1, second.2.trans first.2⟩

/-- What leaves the transport alone makes no call. -/
theorem makes_of_still {x : Action DebugError (Session (Traced τ)) α} (still : Moves Still x)
    (s : Session (Traced τ)) : Makes s [] none (x.exec s) :=
  makes_none (still s).1 (still s).2

/-- What follows and leaves the transport alone makes no further call. -/
theorem Makes.thenStill {x : Action DebugError (Session (Traced τ)) α}
    {f : α → Action DebugError (Session (Traced τ)) β} (first : Makes s calls failure (x.exec s))
    (still : ∀ a, Moves Still (f a)) : Makes s calls failure ((x >>= f).exec s) := by
  rw [Action.exec_bind]
  generalize x.exec s = ran at first
  obtain ⟨e | a, s'⟩ := ran
  · exact first.stopped
  · have whole := first.andThen (makes_of_still (still a) s')
    rw [List.append_nil] at whole
    rw [first.answered]
    exact whole

/-! ### Plans -/

/-- The action makes the calls of a plan, up to the first that fails, and answers if none does. -/
def Conducts (plan : List TransportCall) (x : Action DebugError (Session (Traced τ)) α) : Prop :=
  ∀ s, Ends (fun a t => Makes s plan none ((.ok a : Except DebugError α), t))
    (fun e t => ∃ calls, calls <+: plan ∧ Makes s calls (some e) ((.error e : Except DebugError α), t))
    (x.exec s)

/-- **A single call**, answered or failed. -/
theorem conducts_call {call : TransportCall} {x : Action DebugError τ α} {f : α → TransportCall.Answer}
    (performs : call.perform = f <$> x) : Conducts [call] (onTransport (Traced.call call x)) := by
  intro s
  have performed : call.perform.exec s.transport.transport =
      ((x.exec s.transport.transport).1.map f, (x.exec s.transport.transport).2) := by
    rw [performs, Action.exec_map]
  have traced : (onTransport (Traced.call call x)).exec s =
      ((x.exec s.transport.transport).1,
        s.withTransport ⟨(x.exec s.transport.transport).2, s.transport.calls ++ [call]⟩) := rfl
  rw [traced]
  generalize x.exec s.transport.transport = ran at performed
  obtain ⟨e | a, t⟩ := ran
  · refine ⟨[call], List.prefix_refl _, rfl, .failed performed, fun e' same => ?_, rfl⟩
    rw [Option.some.inj same]
  · exact ⟨rfl, .answered performed .none, nofun, rfl⟩

/-- What conducts a single call makes it. -/
theorem Conducts.makes_one {call : TransportCall} {x : Action DebugError (Session (Traced τ)) α}
    (conducts : Conducts [call] x) (s : Session (Traced τ)) :
    ∃ failure, Makes s [call] failure (x.exec s) := by
  have ended := conducts s
  generalize x.exec s = ran at ended
  obtain ⟨e | a, s'⟩ := ran
  · obtain ⟨calls, part, makes⟩ := ended
    exact ⟨some e, part.eq_of_length_le makes.made.length_pos ▸ makes⟩
  · exact ⟨none, ended⟩

/-- What makes no call and answers. -/
theorem conducts_none {x : Action DebugError (Session (Traced τ)) α}
    (answers : ∀ s, ∃ a, x.exec s = (.ok a, s)) : Conducts [] x := by
  intro s
  obtain ⟨a, ran⟩ := answers s
  rw [ran]
  exact makes_none rfl rfl

theorem conducts_pure (a : α) : Conducts [] (pure a : Action DebugError (Session (Traced τ)) α) :=
  conducts_none fun s => ⟨a, Action.exec_pure a s⟩

/-- **One action after another** conducts one plan after another. -/
theorem Conducts.bind {x : Action DebugError (Session (Traced τ)) α}
    {f : α → Action DebugError (Session (Traced τ)) β} (first : Conducts plan x)
    (second : ∀ a, Conducts plan' (f a)) : Conducts (plan ++ plan') (x >>= f) := by
  intro s
  have begun := first s
  rw [Action.exec_bind]
  generalize x.exec s = ran at begun
  obtain ⟨e | a, s'⟩ := ran
  · obtain ⟨calls, part, makes⟩ := begun
    exact ⟨calls, part.trans (List.prefix_append _ _), makes.stopped⟩
  · have ended := second a s'
    dsimp only
    generalize (f a).exec s' = ran at ended
    obtain ⟨e | b, s''⟩ := ran
    · obtain ⟨calls, part, makes⟩ := ended
      exact ⟨plan ++ calls, (List.prefix_append_right_inj plan).2 part, begun.andThen makes⟩
    · exact begun.andThen ended

/-- Actions that conduct a call each, one after another.  The induction is on the actions. -/
theorem conducts_forM {f : β → Action DebugError (Session (Traced τ)) PUnit} {call : β → TransportCall}
    (each : ∀ b, Conducts [call b] (f b)) (l : List β) : Conducts (l.map call) (l.forM f) := by
  induction l with
  | nil => exact conducts_pure PUnit.unit
  | cons b l ih =>
    show Conducts ([call b] ++ l.map call) (f b >>= fun _ => l.forM f)
    exact (each b).bind fun _ => ih

theorem conducts_log (level : Level) (source : Source) (text : String) :
    Conducts [] (Action.log level source text : Action DebugError (Session (Traced τ)) Unit) :=
  conducts_none fun s => ⟨(), Action.exec_log level source text s⟩

theorem conducts_writeDmi (address : BusAddress) (data : Word) :
    Conducts [.write address data] (writeDmi (τ := Traced τ) address data) :=
  (conducts_log _ _ _).bind fun _ => conducts_call (f := fun _ => .done) rfl

theorem conducts_readDmi (address : BusAddress) :
    Conducts [.read address] (readDmi (τ := Traced τ) address) := by
  refine (conducts_call (f := .word) ?_).bind fun data => (conducts_log _ _ _).bind fun _ => conducts_pure data
  rfl

theorem conducts_idle (cycles : Nat) :
    Conducts [.idle cycles] (onTransport (Transport.idle (τ := Traced τ) cycles)) :=
  conducts_call (f := fun _ => .done) rfl

theorem conducts_expect (address : BusAddress) (expected mask : Word) :
    Conducts [.expect address expected mask]
      (onTransport (Transport.expect (τ := Traced τ) address expected mask)) :=
  conducts_call (f := .check) rfl

end Session

end HartDebug
