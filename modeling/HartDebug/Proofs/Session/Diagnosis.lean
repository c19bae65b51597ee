import HartDebug.Proofs.Session.Polling
import HartDebug.Proofs.Session.Traced

/-!
# Looking for what is wrong

Between a session and the hart lie the debug transport, the debug module and the abstract command.  A diagnosis
reads a register of each, one after another, and stops at the first that is at fault: what lies below it would
not be reached anyway.  What it finds can be put right, with an operation for each layer.

* `Layer` — a layer with the call that reads it; `Layer.Sound`, `Layer.Shows` — what its register says;
* `Examined`, `Examined.unique`, `Examined.ends` — layers looked at one after another, which has one course;
* `FirstFault` — the first layer at fault, with what the layers before it read as;
* `Examined.none_iff`, `Examined.fault_iff`, `Examined.error_iff` — **what each outcome of a look means**;
* `Session.Examines`, `Session.examines_diagnose` — **a diagnosis looks at the layers**, and at nothing else;
* `Session.Diagnoses`, `Session.diagnoses` — what it reports, on every transport;
* `Session.exec_resetStickyError`, `Session.exec_activateDm` — what puts the first two layers right;
* `Session.exec_recovery` — **all three of them are put right** on a simulated module;
* `diagnoses_and_recovers` — both together.
-/

namespace HartDebug

variable {τ : Type}

/-! ## Layers -/

/-- What lies between a session and the hart. -/
inductive Layer where
  | debugTransport
  | debugModule
  | abstractCommand
  deriving DecidableEq, Repr

namespace Layer

/-- All layers, from the session's side on. -/
def all : List Layer :=
  [.debugTransport, .debugModule, .abstractCommand]

/-- The call that reads the register of a layer. -/
def call : Layer → TransportCall
  | .debugTransport => .readDtmcs
  | .debugModule => .read .dmcontrol
  | .abstractCommand => .read .abstractcs

def read [Transport τ] : Layer → Action DebugError τ Word
  | .debugTransport => Bus.readDtmcs
  | .debugModule => Bus.read .dmcontrol
  | .abstractCommand => Bus.read .abstractcs

/-- Nothing is wrong with a layer whose register reads so.  The error of a command counts only once the command
has finished. -/
def Sound : Layer → Word → Prop
  | .debugTransport, w =>
    ¬ (1 ≤ Dtmcs.errinfo.get w ∧ Dtmcs.errinfo.get w ≤ 3) ∧ Dtmcs.dmistat.get w = 0
  | .debugModule, w => Dmcontrol.dmactive.isSet w = true
  | .abstractCommand, w => Abstractcs.busy.isSet w = true ∨ Abstractcs.cmderr.get w = 0

/-- The fault of a layer whose register reads so, with the number that the field holds. -/
inductive Shows : Layer → Word → Fault → Prop
  | transport {w : Word} (failed : 1 ≤ Dtmcs.errinfo.get w ∧ Dtmcs.errinfo.get w ≤ 3) :
    Shows .debugTransport w (.transport (Dtmcs.errinfo.get w))
  | busStatus {w : Word} (plain : ¬ (1 ≤ Dtmcs.errinfo.get w ∧ Dtmcs.errinfo.get w ≤ 3))
    (latched : Dtmcs.dmistat.get w ≠ 0) : Shows .debugTransport w (.busStatus (Dtmcs.dmistat.get w))
  | inactive {w : Word} (off : Dmcontrol.dmactive.isSet w = false) : Shows .debugModule w .inactive
  | command {w : Word} (finished : Abstractcs.busy.isSet w = false) (latched : Abstractcs.cmderr.get w ≠ 0) :
    Shows .abstractCommand w (.command (.ofCode (Abstractcs.cmderr.get w)))

variable {l : Layer} {w : Word} {f g : Fault}

theorem Shows.not_sound (shows : l.Shows w f) : ¬ l.Sound w := by
  intro sound
  cases shows with
  | transport failed => exact sound.1 failed
  | busStatus plain latched => exact latched sound.2
  | inactive off => exact Bool.false_ne_true (off.symm.trans sound)
  | command finished latched =>
    rcases sound with busy | clear
    · exact Bool.false_ne_true (finished.symm.trans busy)
    · exact latched clear

theorem Shows.unique (first : l.Shows w f) (second : l.Shows w g) : f = g := by
  cases first <;> cases second <;> first | rfl | contradiction

/-- The registers of layers read so, one after another. -/
def ReadAs [Transport τ] : τ → List (Layer × Word) → τ → Prop
  | t, [], t' => t' = t
  | t, (l, w) :: rest, t' => ∃ between, l.read.exec t = (.ok w, between) ∧ ReadAs between rest t'

end Layer

/-- What all layers read as. -/
theorem Layer.exists_words_of_all {seen : List (Layer × Word)} (listed : seen.map Prod.fst = all) :
    ∃ status control abstractcs, seen =
      [(.debugTransport, status), (.debugModule, control), (.abstractCommand, abstractcs)] := by
  obtain ⟨⟨_, status⟩, _, rfl, rfl, below⟩ := List.map_eq_cons_iff.1 listed
  obtain ⟨⟨_, control⟩, _, rfl, rfl, last⟩ := List.map_eq_cons_iff.1 below
  obtain ⟨⟨_, abstractcs⟩, _, rfl, rfl, bottom⟩ := List.map_eq_cons_iff.1 last
  obtain rfl := List.map_eq_nil_iff.1 bottom
  exact ⟨status, control, abstractcs, rfl⟩

theorem Layer.readAs_append [Transport τ] {seen more : List (Layer × Word)} {t t' : τ} :
    ReadAs t (seen ++ more) t' ↔ ∃ between, ReadAs t seen between ∧ ReadAs between more t' := by
  induction seen generalizing t with
  | nil => exact ⟨fun read => ⟨t, rfl, read⟩, fun ⟨_, same, read⟩ => same ▸ read⟩
  | cons p seen ih =>
    constructor
    · rintro ⟨next, answered, read⟩
      obtain ⟨between, before, after⟩ := ih.1 read
      exact ⟨between, ⟨next, answered, before⟩, after⟩
    · rintro ⟨between, ⟨next, answered, before⟩, after⟩
      exact ⟨next, answered, ih.2 ⟨between, before, after⟩⟩

/-- Layers are looked at one after another, as far as they are sound, and nothing below one that is at fault or
that cannot be read: the calls for it, what is reported, and the transport afterwards. -/
inductive Examined [Transport τ] :
    List Layer → τ → List TransportCall → Except DebugError (Option Fault) → τ → Prop
  | sound_throughout (t : τ) : Examined [] t [] (.ok none) t
  | unread {l : Layer} {below : List Layer} {t t' : τ} {e : DebugError}
    (failed : l.read.exec t = (.error e, t')) : Examined (l :: below) t [l.call] (.error e) t'
  | faulty {l : Layer} {below : List Layer} {t t' : τ} {w : Word} {f : Fault}
    (answered : l.read.exec t = (.ok w, t')) (shows : l.Shows w f) :
    Examined (l :: below) t [l.call] (.ok (some f)) t'
  | sound {l : Layer} {below : List Layer} {t t' t'' : τ} {w : Word} {calls : List TransportCall}
    {outcome : Except DebugError (Option Fault)} (answered : l.read.exec t = (.ok w, t')) (sound : l.Sound w)
    (rest : Examined below t' calls outcome t'') : Examined (l :: below) t (l.call :: calls) outcome t''

/-- How it ends with the first layer that is not sound, if there is one. -/
inductive Ends [Transport τ] : List Layer → τ → Except DebugError (Option Fault) → Prop
  | sound_throughout (t : τ) : Ends [] t (.ok none)
  | unread {l : Layer} {below : List Layer} {t t' : τ} {e : DebugError}
    (failed : l.read.exec t = (.error e, t')) : Ends (l :: below) t (.error e)
  | faulty {l : Layer} {below : List Layer} {t t' : τ} {w : Word} {f : Fault}
    (answered : l.read.exec t = (.ok w, t')) (shows : l.Shows w f) : Ends (l :: below) t (.ok (some f))

namespace Examined

variable [Transport τ] {layers below : List Layer} {t t' t'' : τ} {calls calls' : List TransportCall}
  {outcome outcome' : Except DebugError (Option Fault)}

/-- There is one course that this can take: a layer reads once, and is sound or shows one fault. -/
theorem unique (first : Examined layers t calls outcome t') (second : Examined layers t calls' outcome' t'') :
    calls = calls' ∧ outcome = outcome' ∧ t' = t'' := by
  induction first generalizing calls' with
  | sound_throughout =>
    cases second
    exact ⟨rfl, rfl, rfl⟩
  | unread failed =>
    cases second with
    | unread failed' =>
      cases failed.symm.trans failed'
      exact ⟨rfl, rfl, rfl⟩
    | faulty answered _ => cases failed.symm.trans answered
    | sound answered _ _ => cases failed.symm.trans answered
  | faulty answered shows =>
    cases second with
    | unread failed => cases answered.symm.trans failed
    | faulty answered' shows' =>
      cases answered.symm.trans answered'
      rw [shows.unique shows']
      exact ⟨rfl, rfl, rfl⟩
    | sound answered' sound _ =>
      cases answered.symm.trans answered'
      exact absurd sound shows.not_sound
  | sound answered sound _ ih =>
    cases second with
    | unread failed => cases answered.symm.trans failed
    | faulty answered' shows =>
      cases answered.symm.trans answered'
      exact absurd sound shows.not_sound
    | sound answered' _ rest =>
      cases answered.symm.trans answered'
      obtain ⟨rfl, rfl, rfl⟩ := ih rest
      exact ⟨rfl, rfl, rfl⟩

/-- What is called are reads of the layers, from the first on. -/
theorem calls_prefix (examined : Examined layers t calls outcome t') : calls <+: layers.map Layer.call := by
  induction examined with
  | sound_throughout => exact List.nil_prefix
  | unread _ => exact List.cons_prefix_cons.2 ⟨rfl, List.nil_prefix⟩
  | faulty _ _ => exact List.cons_prefix_cons.2 ⟨rfl, List.nil_prefix⟩
  | sound _ _ _ ih => exact List.cons_prefix_cons.2 ⟨rfl, ih⟩

/-- Layers that are sound are passed by. -/
theorem past {seen : List (Layer × Word)} (read : Layer.ReadAs t seen t') (sound : ∀ p ∈ seen, p.1.Sound p.2)
    (rest : Examined below t' calls outcome t'') :
    Examined (seen.map Prod.fst ++ below) t (seen.map (·.1.call) ++ calls) outcome t'' := by
  induction seen generalizing t with
  | nil =>
    cases read
    exact rest
  | cons p seen ih =>
    obtain ⟨between, answered, read⟩ := read
    rw [List.forall_mem_cons] at sound
    exact .sound answered sound.1 (ih read sound.2)

/-- The layers that are sound come first, and it ends with what is below them. -/
theorem ends (examined : Examined layers t calls outcome t') :
    ∃ seen below between, seen.map Prod.fst ++ below = layers ∧ Layer.ReadAs t seen between ∧
      (∀ p ∈ seen, p.1.Sound p.2) ∧ Ends below between outcome := by
  induction examined with
  | sound_throughout t => exact ⟨[], [], t, rfl, rfl, nofun, .sound_throughout t⟩
  | unread failed => exact ⟨[], _, _, rfl, rfl, nofun, .unread failed⟩
  | faulty answered shows => exact ⟨[], _, _, rfl, rfl, nofun, .faulty answered shows⟩
  | sound answered sound _ ih =>
    obtain ⟨seen, below, between, rfl, read, each, ended⟩ := ih
    exact ⟨(_, _) :: seen, below, between, rfl, ⟨_, answered, read⟩,
      List.forall_mem_cons.2 ⟨sound, each⟩, ended⟩

end Examined

/-- The first of some layers that is at fault, with what the layers before it and the layer itself read as. -/
structure FirstFault [Transport τ] (layers : List Layer) (t : τ) (seen : List (Layer × Word)) (l : Layer)
    (w : Word) (f : Fault) : Prop where
  among : seen.map Prod.fst ++ [l] <+: layers
  read : ∃ t', Layer.ReadAs t (seen ++ [(l, w)]) t'
  sound : ∀ p ∈ seen, p.1.Sound p.2
  shows : l.Shows w f

section

variable [Transport τ] {layers : List Layer} {t t' : τ} {calls : List TransportCall} {f : Fault}

/-- It is what is reported, and nothing below it is read. -/
theorem FirstFault.examined {seen : List (Layer × Word)} {l : Layer} {w : Word}
    (first : FirstFault layers t seen l w f) :
    ∃ t', Examined layers t (seen.map (·.1.call) ++ [l.call]) (.ok (some f)) t' := by
  obtain ⟨⟨below, rfl⟩, ⟨t', read⟩, sound, shows⟩ := first
  obtain ⟨between, read, after, answered, rfl⟩ := Layer.readAs_append.1 read
  rw [List.append_assoc]
  exact ⟨_, .past read sound (.faulty answered shows)⟩

namespace Examined

variable {outcome : Except DebugError (Option Fault)} (examined : Examined layers t calls outcome t')

include examined

/-- Nothing is found if every layer is sound, and only then. -/
theorem none_iff :
    outcome = .ok none ↔
      ∃ seen t'', seen.map Prod.fst = layers ∧ Layer.ReadAs t seen t'' ∧ ∀ p ∈ seen, p.1.Sound p.2 := by
  constructor
  · rintro rfl
    obtain ⟨seen, _, between, rfl, read, sound, ended⟩ := examined.ends
    cases ended
    exact ⟨seen, between, (List.append_nil _).symm, read, sound⟩
  · rintro ⟨seen, t'', rfl, read, sound⟩
    have course : Examined (seen.map Prod.fst ++ []) t (seen.map (·.1.call) ++ []) (.ok none) t'' :=
      .past read sound (.sound_throughout t'')
    rw [List.append_nil] at course
    exact (examined.unique course).2.1

/-- What is reported is the first fault. -/
theorem fault_iff : outcome = .ok (some f) ↔ ∃ seen l w, FirstFault layers t seen l w f := by
  constructor
  · rintro rfl
    obtain ⟨seen, below, between, rfl, read, sound, ended⟩ := examined.ends
    cases ended with
    | @faulty l below between t' w f answered shows =>
      exact ⟨seen, l, w, List.prefix_append_right_inj _ |>.2 (List.prefix_append [l] below),
        ⟨t', Layer.readAs_append.2 ⟨between, read, t', answered, rfl⟩⟩, sound, shows⟩
  · rintro ⟨seen, l, w, first⟩
    obtain ⟨t'', course⟩ := first.examined
    exact (examined.unique course).2.1

/-- It fails only with a read, of a layer below others that are sound. -/
theorem error_iff {e : DebugError} :
    outcome = .error e ↔
      ∃ seen l below between t'', seen.map Prod.fst ++ l :: below = layers ∧ Layer.ReadAs t seen between ∧
        (∀ p ∈ seen, p.1.Sound p.2) ∧ l.read.exec between = (.error e, t'') := by
  constructor
  · rintro rfl
    obtain ⟨seen, _, between, rfl, read, sound, ended⟩ := examined.ends
    cases ended with
    | @unread l below between t'' e failed => exact ⟨seen, l, below, between, t'', rfl, read, sound, failed⟩
  · rintro ⟨seen, l, below, between, t'', rfl, read, sound, failed⟩
    exact (examined.unique (.past read sound (.unread failed))).2.1

end Examined

end

/-! ## On any transport -/

namespace Session

variable [Transport τ]

/-- Under trace, the action looks at the layers and reports what it finds. -/
def Examines (layers : List Layer) (x : Action DebugError (Session (Traced τ)) (Option Fault)) : Prop :=
  ∀ s, ∃ calls t, Examined layers s.transport.transport calls (x.exec s).1 t ∧
    (x.exec s).2 = s.withTransport ⟨t, s.transport.calls ++ calls⟩

theorem examines_none : Examines [] (pure none : Action DebugError (Session (Traced τ)) (Option Fault)) :=
  fun s => ⟨[], s.transport.transport, .sound_throughout _, by rw [List.append_nil]; rfl⟩

/-- A look at a layer, after which either its fault is reported or the layers below it are looked at. -/
theorem Examines.look {l : Layer} {below : List Layer} {x : Action DebugError (Session (Traced τ)) Word}
    (looks : ∀ s, x.exec s = ((l.read.exec s.transport.transport).1,
      s.withTransport ⟨(l.read.exec s.transport.transport).2, s.transport.calls ++ [l.call]⟩))
    {next : Word → Action DebugError (Session (Traced τ)) (Option Fault)}
    (goes : ∀ w, (∃ f, l.Shows w f ∧ next w = pure (some f)) ∨ l.Sound w ∧ Examines below (next w)) :
    Examines (l :: below) (x >>= next) := by
  intro s
  have looked := looks s
  rcases answered : l.read.exec s.transport.transport with ⟨e | w, t⟩
  · rw [answered] at looked
    rw [Action.exec_bind_error looked]
    exact ⟨[l.call], t, .unread answered, rfl⟩
  · rw [answered] at looked
    rw [Action.exec_bind_ok looked]
    rcases goes w with ⟨f, shows, reports⟩ | ⟨sound, rest⟩
    · rw [reports]
      exact ⟨[l.call], t, .faulty answered shows, rfl⟩
    · obtain ⟨calls, t', examined, after⟩ := rest
        (s.withTransport ⟨t, s.transport.calls ++ [l.call]⟩)
      refine ⟨l.call :: calls, t', .sound answered sound examined, after.trans ?_⟩
      simp [withTransport]

/-- **A diagnosis looks at the layers**, and at nothing else. -/
theorem examines_diagnose : Examines Layer.all (diagnose (τ := Traced τ)) := by
  -- The order of the branches is that of the conditions, and the layer says what each of them means.
  refine Examines.look (l := .debugTransport) (fun s => rfl) fun status => ?_
  dsimp only
  by_cases failed : 1 ≤ Dtmcs.errinfo.get status ∧ Dtmcs.errinfo.get status ≤ 3
  · exact .inl ⟨_, .transport failed, if_pos failed⟩
  by_cases latched : Dtmcs.dmistat.get status ≠ 0
  · exact .inl ⟨_, .busStatus failed latched, by rw [if_neg failed, if_pos latched]⟩
  rw [if_neg failed, if_neg latched]
  refine .inr ⟨⟨failed, Decidable.not_not.1 latched⟩, ?_⟩
  refine Examines.look (l := .debugModule) (exec_readDmi_of_read _) fun control => ?_
  cases active : Dmcontrol.dmactive.isSet control with
  | false => exact .inl ⟨_, .inactive active, if_neg Bool.false_ne_true⟩
  | true =>
    rw [if_pos rfl]
    refine .inr ⟨active, ?_⟩
    refine Examines.look (l := .abstractCommand) (exec_readDmi_of_read _) fun abstractcs => ?_
    have error_none : CommandError.ofAbstractcs abstractcs = .none ↔ Abstractcs.cmderr.get abstractcs = 0 :=
      SimulatedModule.ofCode_eq_none
    cases finished : Abstractcs.busy.isSet abstractcs with
    | true => exact .inr ⟨.inl finished, by rw [if_neg fun both => by cases both.1]; exact examines_none⟩
    | false =>
      by_cases clear : Abstractcs.cmderr.get abstractcs = 0
      · rw [if_neg fun both => both.2 (error_none.2 clear)]
        exact .inr ⟨.inr clear, examines_none⟩
      · exact .inl ⟨_, .command finished clear, if_pos ⟨rfl, fun none => clear (error_none.1 none)⟩⟩

omit [Transport τ] in
/-- A session that agrees with another one under trace in all but the transport. -/
theorem Alike.eq_withTransport {s s' : Session τ} {t : τ} {calls : List TransportCall}
    (alike : Alike Traced.Over (s.traced.withTransport ⟨t, calls⟩) s') : s' = s.withTransport t := by
  obtain ⟨transport, config, tap, xlen, width, progbufCapacity, dcsrShadow, timer⟩ := alike
  cases s'
  cases transport
  cases config
  cases tap
  cases xlen
  cases width
  cases progbufCapacity
  cases dcsrShadow
  cases timer
  rfl

/-- A diagnosis without a trace is the same, and leaves all but the transport as it is. -/
theorem exists_examined_diagnose (s : Session τ) :
    ∃ calls t, Examined Layer.all s.transport calls (diagnose.exec s).1 t ∧
      diagnose.exec s.traced = ((diagnose.exec s).1, s.traced.withTransport ⟨t, calls⟩) ∧
      (diagnose.exec s).2 = s.withTransport t := by
  obtain ⟨same, alike⟩ := simulates_diagnose agree_traced s.traced s (alike_traced s)
  obtain ⟨calls, t, examined, after⟩ := examines_diagnose s.traced
  rw [same] at examined
  rw [after] at alike
  exact ⟨calls, t, examined, Prod.ext same after, alike.eq_withTransport⟩

/-- What a diagnosis reports, and what it calls for it. -/
structure Diagnoses (s : Session τ) : Prop where
  /-- It reads layers, from the first on, and writes nothing. -/
  only_reads : (diagnose.exec s.traced).2.transport.calls <+: [.readDtmcs, .read .dmcontrol, .read .abstractcs]
  /-- The list of its calls makes no difference to the outcome, and only its calls make one to the session. -/
  untouched : (diagnose.exec s.traced).1 = (diagnose.exec s).1 ∧
    (diagnose.exec s).2 = s.withTransport (diagnose.exec s.traced).2.transport.transport
  none_iff : (diagnose.exec s).1 = .ok none ↔
    ∃ status control abstractcs t, Layer.ReadAs s.transport
        [(.debugTransport, status), (.debugModule, control), (.abstractCommand, abstractcs)] t ∧
      ¬ (1 ≤ Dtmcs.errinfo.get status ∧ Dtmcs.errinfo.get status ≤ 3) ∧ Dtmcs.dmistat.get status = 0 ∧
      Dmcontrol.dmactive.isSet control = true ∧
      (Abstractcs.busy.isSet abstractcs = true ∨ Abstractcs.cmderr.get abstractcs = 0)
  fault_iff : ∀ f, (diagnose.exec s).1 = .ok (some f) ↔
    ∃ seen l w, FirstFault Layer.all s.transport seen l w f
  /-- It fails only with a read, of a layer below others that are sound. -/
  error_iff : ∀ e, (diagnose.exec s).1 = .error e ↔
    ∃ seen l below between t, seen.map Prod.fst ++ l :: below = Layer.all ∧
      Layer.ReadAs s.transport seen between ∧ (∀ p ∈ seen, p.1.Sound p.2) ∧ l.read.exec between = (.error e, t)
  /-- Nothing below the first layer at fault is read. -/
  stops : ∀ {seen l w f}, FirstFault Layer.all s.transport seen l w f →
    (diagnose.exec s.traced).2.transport.calls = seen.map (·.1.call) ++ [l.call]

theorem diagnoses (s : Session τ) : Diagnoses s := by
  obtain ⟨calls, t, examined, traced, after⟩ := exists_examined_diagnose s
  have made : (diagnose.exec s.traced).2.transport = ⟨t, calls⟩ := by
    rw [traced]
    rfl
  constructor
  case only_reads =>
    rw [made]
    exact examined.calls_prefix
  case untouched => exact ⟨by rw [traced], by rw [made, after]⟩
  case none_iff =>
    rw [examined.none_iff]
    constructor
    · rintro ⟨seen, between, listed, read, sound⟩
      obtain ⟨status, control, abstractcs, rfl⟩ := Layer.exists_words_of_all listed
      simp only [List.forall_mem_cons] at sound
      exact ⟨status, control, abstractcs, between, read, sound.1.1, sound.1.2, sound.2.1, sound.2.2.1⟩
    · rintro ⟨status, control, abstractcs, t', read, plain, unlatched, active, finished⟩
      exact ⟨_, t', rfl, read, List.forall_mem_cons.2 ⟨⟨plain, unlatched⟩,
        List.forall_mem_cons.2 ⟨active, List.forall_mem_singleton.2 finished⟩⟩⟩
  case fault_iff => exact fun f => examined.fault_iff
  case error_iff => exact fun e => examined.error_iff
  case stops =>
    intro seen l w f first
    obtain ⟨t', examined'⟩ := first.examined
    rw [made]
    exact (examined.unique examined').1

end Session

/-! ## Putting things right -/

/-- Operations one after another succeed if each of them does. -/
theorem Operation.exec_performAll_cons [Transport τ] {op : Operation} {rest : List Operation} {reply : Reply}
    {others : List Reply} {s s' s'' : Session τ} (first : op.perform.exec s = (.ok reply, s'))
    (after : (performAll rest).exec s' = (.ok others, s'')) :
    (performAll (op :: rest)).exec s = (.ok (reply :: others), s'') := by
  rw [performAll, Action.exec_bind_ok first, Action.exec_bind_ok after]
  rfl

namespace Session

/-- What the register of the debug transport reads as while no error of the bus is latched. -/
theorem transportStatus_of_unlatched {m : SimulatedModule} (unlatched : m.dmistat = 0) :
    m.transportStatus = 0x71 := by
  rw [SimulatedModule.transportStatus, unlatched]
  rfl

/-- What `dmcontrol` reads as while the debug module is on. -/
theorem readBus_dmcontrol_of_active {m : SimulatedModule} (active : m.dmactive = true) :
    m.readBus .dmcontrol = (1, m) := by
  rw [SimulatedModule.readBus, if_pos rfl, active]
  rfl

section

variable {s : Session SimulatedModule}

theorem exec_expectNoBusError (unlatched : s.transport.dmistat = 0) (cleared : String) :
    (expectNoBusError cleared).exec s = (.ok (), s) := by
  have read : (onTransport Bus.readDtmcs).exec s = (.ok 0x71, s) := by
    rw [← transportStatus_of_unlatched unlatched]
    rfl
  rw [expectNoBusError, Action.exec_bind_ok (Action.exec_get s), isLive_module, if_pos rfl,
    Action.exec_bind_ok read]
  rfl

/-- The latched error of the debug transport is cleared, whether or not the module is connected. -/
theorem exec_resetStickyError (s : Session SimulatedModule) :
    resetStickyError.exec s = (.ok (), s.withTransport { s.transport with dmistat := 0 }) := by
  have cleared : s.transport.writeTransport (Dtmcs.dmireset.setFlag true 0) =
      { s.transport with dmistat := 0 } := if_pos (.inl (by decide))
  have pulsed : (onTransport (Bus.writeDtmcs (Dtmcs.dmireset.setFlag true 0))).exec s =
      (.ok (), s.withTransport { s.transport with dmistat := 0 }) := by
    rw [← cleared]
    rfl
  rw [resetStickyError, Action.exec_bind_ok pulsed]
  exact exec_expectNoBusError rfl _

theorem exec_expectDmi_of_active (connected : s.transport.connected = true)
    (active : s.transport.dmactive = true) (failure : String) :
    (expectDmi .dmcontrol 1 1 failure).exec s = (.ok (), s) := by
  rw [exec_expectDmi connected, readBus_dmcontrol_of_active active, if_pos rfl]
  rfl

/-- The debug module is switched on. -/
theorem exec_activateDm (connected : s.transport.connected = true) :
    activateDm.exec s = (.ok (), s.withTransport { s.transport with dmactive := true }) := by
  have written : (writeDmi .dmcontrol Dmcontrol.active).exec s =
      (.ok (), s.withTransport { s.transport with dmactive := true }) := exec_writeDmi connected _ _
  rw [activateDm, Action.exec_bind_ok (Action.exec_log _ _ _ s), Action.exec_bind_ok written]
  exact exec_expectDmi_of_active (s := s.withTransport { s.transport with dmactive := true }) connected rfl _

/-- The error of a command is cleared, once what is in flight has drained. -/
theorem exec_clearCommandError_of_drains (connected : s.transport.connected = true)
    (fits : s.transport.ErrorFits) (free : s.transport.stuckBusy = false) (drains : s.DrainsInTime) :
    clearCommandError.exec s = (.ok (), (s.withTransport { s.transport with cmderr := 0 }).polled) := by
  have cleared := SimulatedModule.writeBus_cleared fits
  -- What is in flight drains whether or not an error is latched.
  have in_time : (s.withTransport { s.transport with cmderr := 0 }).DrainsInTime := drains
  rw [← cleared] at in_time
  rw [exec_clearCommandError connected fits free in_time, cleared, if_pos rfl]

/-- On a module whose layers are sound, with nothing in flight, nothing is found and nothing changes. -/
theorem exec_diagnose_of_sound (connected : s.transport.connected = true) (unlatched : s.transport.dmistat = 0)
    (active : s.transport.dmactive = true) (clear : s.transport.cmderr = 0) (idle : s.transport.busyLeft = 0) :
    diagnose.exec s = (.ok none, s) := by
  have fits : s.transport.ErrorFits := by
    rw [SimulatedModule.ErrorFits, clear]
    decide
  have command : s.transport.readBus .abstractcs = (s.transport.abstractStatus, s.transport) :=
    Prod.ext (by rw [SimulatedModule.readBus_abstractcs]) (SimulatedModule.readBus_state_of_idle idle _)
  have read : Layer.ReadAs s.transport [(.debugTransport, 0x71), (.debugModule, 1),
      (.abstractCommand, s.transport.abstractStatus)] s.transport := by
    refine ⟨s.transport, ?_, s.transport, ?_, s.transport, ?_, rfl⟩
    · rw [← transportStatus_of_unlatched unlatched]
      rfl
    · rw [Layer.read, exec_readBus connected, readBus_dmcontrol_of_active active]
    · rw [Layer.read, exec_readBus connected, command]
  have on : Dmcontrol.dmactive.isSet 1 = true := by decide
  have error := SimulatedModule.get_cmderr_abstractStatus fits
  rw [clear] at error
  have sound : ∀ p ∈ [(Layer.debugTransport, (0x71 : Word)), (.debugModule, 1),
      (.abstractCommand, s.transport.abstractStatus)], p.1.Sound p.2 :=
    List.forall_mem_cons.2 ⟨⟨by decide, by decide⟩,
      List.forall_mem_cons.2 ⟨on, List.forall_mem_singleton.2 (.inr error)⟩⟩
  obtain ⟨_, _, examined, -, after⟩ := exists_examined_diagnose s
  obtain ⟨-, outcome, rfl⟩ := examined.unique (.past read sound (.sound_throughout s.transport))
  exact Prod.ext outcome after

/-- The session when the command in flight has finished, the module is on and no error is latched. -/
def recovered (s : Session SimulatedModule) : Session SimulatedModule :=
  s.polled.withTransport { s.polled.transport with dmistat := 0, dmactive := true, cmderr := 0 }

/-- **Every layer is put right** by an operation of its own, and then a diagnosis finds nothing. -/
theorem exec_recovery (connected : s.transport.connected = true) (fits : s.transport.ErrorFits)
    (free : s.transport.stuckBusy = false) (drains : s.DrainsInTime) :
    (Operation.performAll [.resetStickyError, .activateDm, .clearCommandError, .diagnose]).exec s =
      (.ok [.done, .done, .done, .fault none], s.recovered) := by
  let unlatched := s.withTransport { s.transport with dmistat := 0 }
  let active := unlatched.withTransport { unlatched.transport with dmactive := true }
  let cleared := active.withTransport { active.transport with cmderr := 0 }
  have resets : resetStickyError.exec s = (.ok (), unlatched) := exec_resetStickyError s
  have activates : activateDm.exec unlatched = (.ok (), active) := exec_activateDm connected
  have clears : clearCommandError.exec active = (.ok (), cleared.polled) :=
    exec_clearCommandError_of_drains connected fits free drains
  have finds : diagnose.exec cleared.polled = (.ok none, cleared.polled) :=
    exec_diagnose_of_sound connected rfl rfl rfl (Nat.sub_self _)
  have last : s.recovered = cleared.polled := rfl
  rw [last]
  refine Operation.exec_performAll_cons (Action.exec_bind_ok resets _) ?_
  refine Operation.exec_performAll_cons (Action.exec_bind_ok activates _) ?_
  refine Operation.exec_performAll_cons (Action.exec_bind_ok clears _) ?_
  exact Operation.exec_performAll_cons (Action.exec_map_ok finds _) rfl

end

end Session

open Session in
/-- **A diagnosis reports the first fault there is**, having read no further and written nothing, on every
transport.  On a simulated module that is connected and not stuck, with something in flight that drains in time
and whatever errors are latched, the operations that put the layers right succeed, and a diagnosis then finds
nothing. -/
theorem diagnoses_and_recovers :
    (∀ {τ : Type} [Transport τ] (s : Session τ), Diagnoses s) ∧
      ∀ s : Session SimulatedModule, s.transport.connected = true → s.transport.ErrorFits →
        s.transport.stuckBusy = false → s.DrainsInTime →
        (Operation.performAll [.resetStickyError, .activateDm, .clearCommandError, .diagnose]).exec s =
          (.ok [.done, .done, .done, .fault none], s.recovered) :=
  ⟨diagnoses, fun _ => exec_recovery⟩

open Session in
/-- A module that is off, with an error of the bus and an exception latched and something in flight. -/
theorem diagnoses_and_recovers_of_faulty :
    let m : SimulatedModule := { connected := true, dmistat := 2, cmderr := 3, busyLeft := 2 }
    let s : Session SimulatedModule := .fresh m {} { clock := .steady 1 (by decide) }
    (s.transport.connected = true ∧ s.transport.ErrorFits ∧ s.transport.stuckBusy = false ∧ s.DrainsInTime) ∧
      (diagnose.exec s).1 = .ok (some (.busStatus 2)) ∧
      (diagnose.exec s.traced).2.transport.calls = [.readDtmcs] ∧
      ((Operation.performAll [.resetStickyError, .activateDm, .clearCommandError, .diagnose]).exec s).1 =
        .ok [.done, .done, .done, .fault none] := by
  intro m s
  have fits : s.transport.ErrorFits := by decide
  have drains : s.DrainsInTime := by
    intro i early
    have below : i < 2 := early
    show (0 + 1 + i) * 1 + 0 + i * 50000000 < 0 * 1 + 0 + 2000000000
    omega
  have status : Bus.readDtmcs.exec s.transport = (.ok 0x871, s.transport) := by
    rw [show (0x871 : Word) = s.transport.transportStatus by decide]
    rfl
  have first : FirstFault Layer.all s.transport [] .debugTransport 0x871 (.busStatus 2) :=
    ⟨List.prefix_append _ _, ⟨s.transport, s.transport, status, rfl⟩, nofun, .busStatus (by decide) (by decide)⟩
  have diagnosed : Diagnoses s := diagnoses_and_recovers.1 s
  have recovers := diagnoses_and_recovers.2 s rfl fits rfl drains
  exact ⟨⟨rfl, fits, rfl, drains⟩, (diagnosed.fault_iff _).2 ⟨_, _, _, first⟩, diagnosed.stops first,
    congrArg Prod.fst recovers⟩

end HartDebug
