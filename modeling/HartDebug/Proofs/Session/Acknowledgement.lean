import HartDebug.Proofs.Bits.Fields
import HartDebug.Proofs.Session.Recorded
import HartDebug.Proofs.Target.AbstractStatus
import HartDebug.Proofs.Triples

/-!
# No success without an acknowledgement

Many operations make a request and require the target to acknowledge it.  Whatever a transport answers, such
an operation succeeds only if the target was seen to acknowledge the request after it was made, and where
the last look shows no acknowledgement the operation fails and asks for nothing more.

* `Handshake` — the request, where its acknowledgement is looked for, and what counts as one;
* `Handshake.Course` — how an operation with a handshake can go;
* `triple_expectDmi`, `triple_pollUntil` — looking for the acknowledgement, once and again and again;
* `course_perform` — **every operation with a handshake goes that way**;
* `no_success_unacknowledged` — what a record then shows.
-/

namespace HartDebug

open Action (Triple Ends)

/-! ## Handshakes -/

/-- The access reads a register of the target. -/
def Access.IsRead : Access → Prop
  | .read _ | .readDtmcs | .readIdcode => True
  | _ => False

/-- A request and its acknowledgement. -/
structure Handshake where
  /-- The access asks for what the operation is about. -/
  request : Access → Prop
  /-- The access that can show the acknowledgement. -/
  look : Access
  reads : look.IsRead := by trivial
  /-- What was read acknowledges the request. -/
  confirmed : Word → Prop

namespace Handshake

/-- A request that `dmstatus` acknowledges with two flags. -/
def ofStatus (request : Access) (all any : BitField) : Handshake where
  request := (· = request)
  look := .read .dmstatus
  confirmed w := all.isSet w = true ∧ any.isSet w = true

/-- A request to switch the debug module on or off, which `dmcontrol` acknowledges. -/
def ofActive (request : Access) (on : Bool) : Handshake where
  request := (· = request)
  look := .read .dmcontrol
  confirmed w := Dmcontrol.dmactive.isSet w = on

/-- A request to the debug transport, after which no error of the debug bus is latched. -/
def ofBus (request : Access) : Handshake where
  request := (· = request)
  look := .readDtmcs
  confirmed w := Dtmcs.dmistat.get w = 0

/-- A request after which no abstract command is busy and no error of one is latched. -/
def ofCommand (request : Access → Prop) : Handshake where
  request := request
  look := .read .abstractcs
  confirmed w := Abstractcs.busy.isSet w = false ∧ Abstractcs.cmderr.get w = 0

def halting : Handshake :=
  ofStatus (.write .dmcontrol (Dmcontrol.request Dmcontrol.haltreq)) Dmstatus.allhalted Dmstatus.anyhalted

def resuming : Handshake :=
  ofStatus (.write .dmcontrol (Dmcontrol.request Dmcontrol.resumereq)) Dmstatus.allresumeack
    Dmstatus.anyresumeack

def resetting : Handshake :=
  ofStatus (.write .dmcontrol (Dmcontrol.request Dmcontrol.ndmreset)) Dmstatus.allhavereset
    Dmstatus.anyhavereset

def activating : Handshake :=
  ofActive (.write .dmcontrol Dmcontrol.active) true

def deactivating : Handshake :=
  ofActive (.write .dmcontrol 0) false

def clearingBusErrors : Handshake :=
  ofBus (.writeDtmcs (Dtmcs.dmireset.setFlag true 0))

def resettingTransport : Handshake :=
  ofBus (.writeDtmcs (Dtmcs.dtmhardreset.setFlag true 0))

def executing : Handshake :=
  ofCommand (· = .write .command AccessRegister.execute)

def clearingCommandErrors : Handshake :=
  ofCommand (· = .write .abstractcs Abstractcs.cmderr.mask)

/-- A write to the register that a session finds under a name. -/
def writing {τ : Type} (s : Session τ) (name : String) (width : Option TransferWidth) : Handshake :=
  ofCommand fun access => ∃ place, s.locate name width = .ok place ∧
    access = .write .command (AccessRegister.move place.register.number place.width true)

end Handshake

/-- The handshake of an operation that requires one. -/
def Operation.handshake? {τ : Type} (s : Session τ) : Operation → Option Handshake
  | .halt => some .halting
  | .resume => some .resuming
  | .resetHart => some .resetting
  | .activateDm => some .activating
  | .deactivateDm => some .deactivating
  | .resetStickyError => some .clearingBusErrors
  | .hardResetDtm => some .resettingTransport
  | .writeRegister name _ width => some (.writing s name width)
  | .executeProgram => some .executing
  | .clearCommandError => some .clearingCommandErrors
  | _ => none

/-- The errors of an operation whose acknowledgement is missing. -/
def DebugError.IsRefusal (e : DebugError) : Prop :=
  (∃ violation, e = .protocol violation) ∨ (∃ error, e = .command error) ∨ ∃ limit, e = .busyTimeout limit

/-- The last of the elements with a property is determined. -/
theorem last_unique {α : Type} {p : α → Prop} {before before' after after' : List α} {x y : α}
    (same : before ++ x :: after = before' ++ y :: after') (hx : p x) (hy : p y)
    (last : ∀ a ∈ after, ¬ p a) (last' : ∀ a ∈ after', ¬ p a) : x = y ∧ after = after' := by
  rcases List.append_eq_append_iff.1 same with ⟨rest, -, split⟩ | ⟨rest, -, split⟩
  · cases rest with
    | nil => exact List.cons.inj split
    | cons z rest =>
      obtain ⟨-, rfl⟩ := List.cons.inj split
      exact absurd hy (last y (by simp))
  · cases rest with
    | nil =>
      obtain ⟨rfl, rfl⟩ := List.cons.inj split
      exact ⟨rfl, rfl⟩
    | cons z rest =>
      obtain ⟨-, rfl⟩ := List.cons.inj split
      exact absurd hx (last' x (by simp))

namespace Handshake

variable {h : Handshake} {record : List Entry}

/-- The acknowledgement has not been looked for. -/
def Unseen (h : Handshake) (record : List Entry) : Prop :=
  ∀ entry ∈ record, entry.access ≠ h.look

/-- The request has been made. -/
def Asked (h : Handshake) (record : List Entry) : Prop :=
  ∃ before request after, record = before ++ ⟨request, .done⟩ :: after ∧ h.request request

/-- The request has been made, and its acknowledgement has not been looked for. -/
structure Requested (h : Handshake) (record : List Entry) : Prop where
  asked : h.Asked record
  unseen : h.Unseen record

/-- The last look came after the request and has shown its acknowledgement. -/
def Confirmed (h : Handshake) (record : List Entry) : Prop :=
  ∃ before request between w after,
    record = before ++ ⟨request, .done⟩ :: between ++ ⟨h.look, .value w⟩ :: after ∧
      h.request request ∧ h.confirmed w ∧ ∀ entry ∈ after, entry.access ≠ h.look

/-- The last look came after the request and has shown `w`. -/
def Looked (h : Handshake) (w : Word) (record : List Entry) : Prop :=
  ∃ before, record = before ++ [⟨h.look, .value w⟩] ∧ h.Asked before

/-- How an operation with a handshake can go, with the error that it may have failed with. -/
inductive Course (h : Handshake) : Option DebugError → List Entry → Prop where
  /-- It failed before the acknowledgement was looked for, or in a look that was not answered. -/
  | cut {e : DebugError} {record : List Entry}
      (unanswered : ∀ before w after, record = before ++ ⟨h.look, .value w⟩ :: after →
        ∃ entry ∈ after, entry.access = h.look) :
      Course h (some e) record
  /-- The last look has shown no acknowledgement, and that was the end. -/
  | refused {e : DebugError} {before : List Entry} {w : Word} (refuted : ¬ h.confirmed w)
      (refusal : e.IsRefusal) : Course h (some e) (before ++ [⟨h.look, .value w⟩])
  /-- The last look has shown the acknowledgement. -/
  | confirmed {failure : Option DebugError} {record : List Entry} (shown : h.Confirmed record) :
      Course h failure record

theorem Unseen.cut (unseen : h.Unseen record) (e : DebugError) : h.Course (some e) record := by
  refine .cut fun before w after split => absurd rfl (unseen ⟨h.look, .value w⟩ ?_)
  simp [split]

/-- A look that failed ends an operation. -/
theorem course_unanswered (record : List Entry) (e : DebugError) :
    h.Course (some e) (record ++ [⟨h.look, .failed e⟩]) := by
  refine .cut fun before w after split => ?_
  rcases List.eq_nil_or_concat after with rfl | ⟨front, last, rfl⟩
  · have ends := (List.append_inj' split rfl).2
    cases ends
  · rw [List.concat_eq_append, ← List.cons_append, ← List.append_assoc] at split
    have ends := (List.append_inj' split rfl).2
    obtain ⟨rfl, -⟩ := List.cons.inj ends
    exact ⟨⟨h.look, .failed e⟩, by simp, rfl⟩

theorem Unseen.snoc (unseen : h.Unseen record) {entry : Entry} (other : entry.access ≠ h.look) :
    h.Unseen (record ++ [entry]) := by
  intro entry' mem
  rcases List.mem_append.1 mem with mem | mem
  · exact unseen entry' mem
  · rw [List.mem_singleton.1 mem]
    exact other

theorem Asked.snoc (asked : h.Asked record) (entry : Entry) : h.Asked (record ++ [entry]) := by
  obtain ⟨before, request, after, rfl, requested⟩ := asked
  exact ⟨before, request, after ++ [entry], by simp, requested⟩

theorem asked_snoc (record : List Entry) {request : Access} (requested : h.request request) :
    h.Asked (record ++ [⟨request, .done⟩]) :=
  ⟨record, request, [], rfl, requested⟩

theorem Confirmed.snoc (confirmed : h.Confirmed record) {entry : Entry} (other : entry.access ≠ h.look) :
    h.Confirmed (record ++ [entry]) := by
  obtain ⟨before, request, between, w, after, rfl, requested, shown, last⟩ := confirmed
  refine ⟨before, request, between, w, after ++ [entry], by simp, requested, shown, ?_⟩
  intro entry' mem
  rcases List.mem_append.1 mem with mem | mem
  · exact last entry' mem
  · rw [List.mem_singleton.1 mem]
    exact other

theorem Looked.asked {w : Word} (looked : h.Looked w record) : h.Asked record := by
  obtain ⟨before, rfl, asked⟩ := looked
  exact asked.snoc _

/-- A look after the request that shows the acknowledgement. -/
theorem Looked.confirmed {w : Word} (looked : h.Looked w record) (shown : h.confirmed w) :
    h.Confirmed record := by
  obtain ⟨_, rfl, before, request, between, rfl, requested⟩ := looked
  exact ⟨before, request, between, w, [], rfl, requested, shown, by simp⟩

/-- A look that shows none ends an operation. -/
theorem Looked.refused {w : Word} (looked : h.Looked w record) (refuted : ¬ h.confirmed w)
    {e : DebugError} (refusal : e.IsRefusal) : h.Course (some e) record := by
  obtain ⟨before, rfl, -⟩ := looked
  exact .refused refuted refusal

/-- A write is no look. -/
theorem ne_look (h : Handshake) {access : Access} (writes : ¬ access.IsRead) : access ≠ h.look := by
  rintro rfl
  exact writes h.reads

/-- **Where the last look has shown no acknowledgement**, that was the end, with an error that says so. -/
theorem Course.refusal {failure : Option DebugError} (course : h.Course failure record)
    {before after : List Entry} {w : Word} (split : record = before ++ ⟨h.look, .value w⟩ :: after)
    (last : ∀ entry ∈ after, entry.access ≠ h.look) (refuted : ¬ h.confirmed w) :
    (∃ e, failure = some e ∧ e.IsRefusal) ∧ after = [] := by
  cases course with
  | cut unanswered =>
    obtain ⟨entry, mem, again⟩ := unanswered before w after split
    exact absurd again (last entry mem)
  | @refused e before' w' _ refusal =>
    obtain ⟨-, rfl⟩ := last_unique (p := fun entry : Entry => entry.access = h.look) split.symm rfl rfl
      last (by simp)
    exact ⟨⟨e, rfl, refusal⟩, rfl⟩
  | confirmed shown =>
    obtain ⟨before', request, between, w', after', rfl, -, acknowledged, last'⟩ := shown
    obtain ⟨same, -⟩ := last_unique (p := fun entry : Entry => entry.access = h.look) split rfl rfl
      last' last
    cases same
    exact absurd acknowledged refuted

end Handshake

/-! ## Accesses -/

namespace Session

open Recorded (enter)

variable {τ α : Type} {h : Handshake} {P Q : List Entry → Prop}

/-- What holds of the record of a session. -/
def On (P : List Entry → Prop) (s : Session (Recorded τ)) : Prop :=
  P s.transport.record

/-- From one condition on the record to another; an error ends as the handshake can. -/
abbrev Goes (h : Handshake) (P : List Entry → Prop) (x : Action DebugError (Session (Recorded τ)) α)
    (Q : List Entry → Prop) : Prop :=
  Triple (On P) x (fun _ => On Q) (fun e => On (h.Course (some e)))

theorem goes_log (level : Level) (source : Source) (text : String) :
    Goes (τ := τ) h P (Action.log level source text) P :=
  .log level source text fun _ held => held

/-- An access adds its entry to the record. -/
theorem triple_enter {access : Access} {answer : α → Answer} {x : Action DebugError τ α}
    {R : α → List Entry → Prop} (answered : ∀ record a, P record → R a (record ++ [⟨access, answer a⟩]))
    (failed : ∀ record e, P record → h.Course (some e) (record ++ [⟨access, .failed e⟩])) :
    Triple (On P) (onTransport (enter access answer x)) (fun a => On (R a))
      (fun e => On (h.Course (some e))) := by
  intro s held
  rw [exec_onTransport, Recorded.exec_enter]
  cases (x.exec s.transport.bus).1 with
  | ok a => exact answered _ a held
  | error e => exact failed _ e held

/-- The request, as the first thing of interest. -/
theorem goes_enter_request {access : Access} {x : Action DebugError τ Unit}
    (writes : ¬ access.IsRead) (requested : h.request access) :
    Goes h h.Unseen (onTransport (enter access (fun _ => .done) x)) h.Requested :=
  triple_enter
    (fun record _ unseen => ⟨Handshake.asked_snoc record requested, unseen.snoc (h.ne_look writes)⟩)
    (fun _ e unseen => (unseen.snoc (h.ne_look writes)).cut e)

/-- A look after the request. -/
theorem triple_enter_look {x : Action DebugError τ Word} :
    Triple (On h.Asked) (onTransport (enter h.look .value x)) (fun w => On (h.Looked w))
      (fun e => On (h.Course (some e))) :=
  triple_enter (fun record _ asked => ⟨record, rfl, asked⟩)
    (fun record e _ => Handshake.course_unanswered record e)

/-- What was looked for is not there. -/
theorem triple_refuse {w : Word} (refuted : ¬ h.confirmed w) {e : DebugError} (refusal : e.IsRefusal)
    (source : Source) {post : α → Session (Recorded τ) → Prop} :
    Triple (On (h.Looked w)) (failLogged source e) post (fun e => On (h.Course (some e))) := by
  intro s looked
  rw [exec_failLogged]
  exact looked.refused refuted refusal

variable [Transport τ]

/-- A write adds its entry to the record. -/
theorem goes_writeDmi {address : BusAddress} {data : Word}
    (done : ∀ record, P record → Q (record ++ [⟨.write address data, .done⟩]))
    (failed : ∀ record e, P record → h.Course (some e) (record ++ [⟨.write address data, .failed e⟩])) :
    Goes (τ := τ) h P (writeDmi address data) Q :=
  (goes_log _ _ _).bind fun _ => triple_enter (fun record _ => done record) failed

theorem goes_request {address : BusAddress} {data : Word}
    (requested : h.request (.write address data)) :
    Goes (τ := τ) h h.Unseen (writeDmi address data) h.Requested :=
  (goes_log _ _ _).bind fun _ => goes_enter_request id requested

/-- A write before the request. -/
theorem goes_write_unseen (address : BusAddress) (data : Word) :
    Goes (τ := τ) h h.Unseen (writeDmi address data) h.Unseen :=
  goes_writeDmi (fun _ unseen => unseen.snoc (h.ne_look id))
    fun _ e unseen => (unseen.snoc (h.ne_look id)).cut e

/-- A write between the request and the look. -/
theorem goes_write_requested (address : BusAddress) (data : Word) :
    Goes (τ := τ) h h.Requested (writeDmi address data) h.Requested :=
  goes_writeDmi (fun _ both => ⟨both.asked.snoc _, both.unseen.snoc (h.ne_look id)⟩)
    fun _ e both => (both.unseen.snoc (h.ne_look id)).cut e

/-- A write after the acknowledgement. -/
theorem goes_write_confirmed (address : BusAddress) (data : Word) :
    Goes (τ := τ) h h.Confirmed (writeDmi address data) h.Confirmed :=
  goes_writeDmi (fun _ shown => shown.snoc (h.ne_look id))
    fun _ _ shown => .confirmed (shown.snoc (h.ne_look id))

variable [ReadsBack τ]

/-- **An expectation is a look**: it is met if the acknowledgement is shown. -/
theorem triple_expectDmi {address : BusAddress} (look : h.look = .read address) {expected mask : Word}
    (confirms : ∀ w, w &&& mask = expected &&& mask ↔ h.confirmed w) (failure : String) :
    Goes (τ := τ) h h.Requested (expectDmi address expected mask failure) h.Confirmed := by
  refine .congr ?_ (exec_expectDmi_eq address expected mask failure)
  have looked : Triple (On (τ := τ) h.Asked) (onTransport (Bus.read address)) (fun w => On (h.Looked w))
      (fun e => On (h.Course (some e))) := by
    have reads := triple_enter_look (h := h) (x := Bus.read (τ := τ) address)
    rw [look] at reads
    exact reads
  refine Triple.bind (fun s requested => looked s requested.asked) fun actual => ?_
  split
  · next same => exact .pure fun s seen => seen.confirmed ((confirms actual).1 same)
  · next differs => exact triple_refuse (fun shown => differs ((confirms actual).2 shown)) (.inl ⟨_, rfl⟩) _

theorem goes_expectNoBusError (request : Access) (cleared : String) :
    Goes (τ := τ) (.ofBus request) (Handshake.ofBus request).Requested (expectNoBusError cleared)
      (Handshake.ofBus request).Confirmed := by
  refine .get_bind fun s requested => ?_
  rw [isLive_eq_true, if_pos rfl]
  have looked := triple_enter_look (h := .ofBus request) (x := Bus.readDtmcs (τ := τ))
  refine looked.bind (fun status => ?_) s requested.asked
  dsimp only
  split
  · next latched => exact triple_refuse (fun clear => latched clear) (.inl ⟨_, rfl⟩) _
  · next clear =>
    have healthy : Dtmcs.dmistat.get status = 0 := by simpa using clear
    exact .pure fun s seen => seen.confirmed healthy

/-! ### Polls -/

variable {request : Access → Prop}

omit [ReadsBack τ] in
/-- One look at a command: it has finished, or it is looked at again. -/
theorem triple_pollOnce_acknowledged (deadline : Nat) :
    Triple (On (τ := τ) (Handshake.ofCommand request).Asked) (pollOnce deadline)
      (fun seen => On fun record => match seen with
        | some status => (Handshake.ofCommand request).Looked status record ∧
            Abstractcs.busy.isSet status = false
        | none => (Handshake.ofCommand request).Asked record)
      (fun e => On ((Handshake.ofCommand request).Course (some e))) := by
  have looked : Triple (On (τ := τ) (Handshake.ofCommand request).Asked) (readDmi .abstractcs)
      (fun status => On ((Handshake.ofCommand request).Looked status))
      (fun e => On ((Handshake.ofCommand request).Course (some e))) :=
    triple_enter_look.bind fun status => (goes_log _ _ _).bind fun _ => .pure fun _ seen => seen
  refine looked.bind fun status => ?_
  split
  · next busy =>
    have unfinished : ¬ (Handshake.ofCommand request).confirmed status := by
      rintro ⟨idle, -⟩
      rw [busy] at idle
      cases idle
    have looks : Goes (τ := τ) (.ofCommand request) ((Handshake.ofCommand request).Looked status)
        lookAtClock ((Handshake.ofCommand request).Looked status) := fun _ seen => seen
    refine looks.bind fun now => ?_
    split
    · exact .get_bind fun s seen => triple_refuse unfinished (.inr (.inr ⟨_, rfl⟩)) _ s seen
    · have paused : Goes (τ := τ) (.ofCommand request) ((Handshake.ofCommand request).Looked status)
          pause (Handshake.ofCommand request).Asked := fun _ seen => seen.asked
      exact paused.bind fun _ => .pure fun _ asked => asked
  · next idle => exact .pure fun _ seen => ⟨seen, by simpa using idle⟩

omit [ReadsBack τ] in
/-- **A poll ends in a look that finds the command finished**, or where its time is over. -/
theorem triple_pollUntil_acknowledged (deadline : Nat) :
    Triple (On (τ := τ) (Handshake.ofCommand request).Asked) (pollUntil deadline : Action DebugError _ Word)
      (fun status => On fun record => (Handshake.ofCommand request).Looked status record ∧
        Abstractcs.busy.isSet status = false)
      (fun e => On ((Handshake.ofCommand request).Course (some e))) :=
  triple_pollUntil_of_looks
    ((triple_pollOnce_acknowledged deadline).consequence (fun _ asked => asked)
      (fun seen _ held => by cases seen <;> exact held) fun _ _ failed => failed)

omit [ReadsBack τ] in
theorem triple_pollAbstractcs_acknowledged :
    Triple (On (τ := τ) (Handshake.ofCommand request).Asked) pollAbstractcs
      (fun status => On fun record => (Handshake.ofCommand request).Looked status record ∧
        Abstractcs.busy.isSet status = false)
      (fun e => On ((Handshake.ofCommand request).Course (some e))) :=
  fun s asked => triple_pollUntil_acknowledged _ { s with timer := s.timer.looked } asked

/-- What the last look of a poll means. -/
theorem confirmed_iff {status : Word} (idle : Abstractcs.busy.isSet status = false) :
    (Handshake.ofCommand request).confirmed status ↔ CommandError.ofAbstractcs status = .none := by
  rw [CommandError.ofAbstractcs, SimulatedModule.ofCode_eq_none]
  exact ⟨fun shown => shown.2, fun clear => ⟨idle, clear⟩⟩

/-- **Waiting for a command** succeeds where the last look shows no error of it. -/
theorem goes_waitForCommand :
    Goes (τ := τ) (.ofCommand request) (Handshake.ofCommand request).Requested waitForCommand
      (Handshake.ofCommand request).Confirmed := by
  refine .get_bind fun s requested => ?_
  rw [isLive_eq_true, if_pos rfl]
  refine triple_pollAbstractcs_acknowledged.bind (fun status => ?_) s requested.asked
  split
  · next clear => exact .pure fun _ seen => seen.1.confirmed ((confirmed_iff seen.2).2 clear)
  · next latched =>
    refine .throw fun _ seen => seen.1.refused (fun shown => ?_) (.inr (.inl ⟨_, rfl⟩))
    exact latched ((confirmed_iff seen.2).1 shown)

/-! ### Operations -/

/-- The operation goes from nothing looked for to the acknowledgement. -/
abbrev Confirms (h : Handshake) (x : Action DebugError (Session (Recorded τ)) Unit) : Prop :=
  Goes h h.Unseen x h.Confirmed

/-- An expectation of two flags of the status. -/
theorem goes_expectStatus {request : Access} {all any : BitField} (h_all : all.IsFlag)
    (h_any : any.IsFlag) (failure : String) :
    Goes (τ := τ) (.ofStatus request all any) (Handshake.ofStatus request all any).Requested
      (expectDmi .dmstatus (all.mask ||| any.mask) (all.mask ||| any.mask) failure)
      (Handshake.ofStatus request all any).Confirmed := by
  refine triple_expectDmi rfl (fun w => ?_) failure
  rw [BitVec.and_self, BitField.and_masks_eq_masks h_all h_any]
  rfl

theorem confirms_halt : Confirms (τ := τ) .halting halt :=
  (goes_log _ _ _).bind fun _ => (goes_request rfl).bind fun _ =>
    (goes_expectStatus (by rfl) (by rfl) _).bind fun _ => goes_write_confirmed _ _

theorem confirms_resume : Confirms (τ := τ) .resuming resume :=
  (goes_log _ _ _).bind fun _ => (goes_request rfl).bind fun _ =>
    goes_expectStatus (by rfl) (by rfl) _

theorem confirms_resetHart : Confirms (τ := τ) .resetting resetHart :=
  (goes_log _ _ _).bind fun _ => (goes_request rfl).bind fun _ => (goes_write_requested _ _).bind fun _ =>
    (goes_expectStatus (by rfl) (by rfl) _).bind fun _ =>
      (goes_write_confirmed _ _).bind fun _ => .modify fun _ shown => shown

theorem confirms_activateDm : Confirms (τ := τ) .activating activateDm := by
  refine (goes_log _ _ _).bind fun _ => (goes_request rfl).bind fun _ => triple_expectDmi rfl ?_ _
  exact BitField.and_mask_eq_mask (show Dmcontrol.dmactive.IsFlag by rfl)

theorem confirms_deactivateDm : Confirms (τ := τ) .deactivating deactivateDm := by
  refine (goes_log _ _ _).bind fun _ => (goes_request rfl).bind fun _ => triple_expectDmi rfl (fun w => ?_) _
  have clear := BitField.and_mask_eq_zero Dmcontrol.dmactive w
  show w &&& 1 = 0 ↔ Dmcontrol.dmactive.isSet w = false
  rw [show (1 : Word) = Dmcontrol.dmactive.mask from rfl, clear]
  simp [BitField.isSet]

theorem confirms_resetStickyError : Confirms (τ := τ) .clearingBusErrors resetStickyError :=
  (goes_enter_request id rfl).bind fun _ => goes_expectNoBusError _ _

theorem confirms_hardResetDtm : Confirms (τ := τ) .resettingTransport hardResetDtm :=
  (goes_enter_request id rfl).bind fun _ => goes_expectNoBusError _ _

theorem confirms_executeProgram : Confirms (τ := τ) .executing executeProgram := by
  refine (goes_log _ _ _).bind fun _ => (goes_request rfl).bind fun _ => .get_bind fun s requested => ?_
  rw [isLive_eq_true, if_pos rfl]
  exact goes_waitForCommand s requested

theorem confirms_clearCommandError : Confirms (τ := τ) .clearingCommandErrors clearCommandError := by
  refine (goes_request rfl).bind fun _ => .get_bind fun s requested => ?_
  rw [isLive_eq_true, if_pos rfl]
  refine triple_pollAbstractcs_acknowledged.bind (fun status => ?_) s requested.asked
  split
  · next clear => exact .pure fun _ seen => seen.1.confirmed ((confirmed_iff seen.2).2 clear)
  · next latched =>
    intro s seen
    exact triple_refuse (fun shown => latched ((confirmed_iff seen.2).1 shown)) (.inl ⟨_, rfl⟩) _ s seen.1

omit [Transport τ] [ReadsBack τ] in
/-- The place of a register is found without anything asked of the transport, or not at all. -/
theorem triple_locateFor (s : Session τ) (name : String) (value : Value) (width : Option TransferWidth) :
    Triple
      (fun t : Session (Recorded τ) => t.locate name width = s.locate name width ∧ On h.Unseen t)
      (locateFor name value width)
      (fun place t => s.locate name width = .ok place ∧ On h.Unseen t)
      (fun e => On (h.Course (some e))) := by
  refine .get_bind fun t found => ?_
  rw [found.1]
  have looked : Triple (On (τ := τ) h.Unseen) (Action.ofExcept (s.locate name width))
      (fun place t => s.locate name width = .ok place ∧ On h.Unseen t)
      (fun e => On (h.Course (some e))) := by
    intro t unseen
    cases located : s.locate name width with
    | ok place => exact ⟨rfl, unseen⟩
    | error e => exact unseen.cut e
  refine looked.bind (fun place => ?_) t found.2
  split
  · exact .pure fun _ kept => kept
  · intro t found
    rw [exec_failLogged]
    exact found.2.cut _

/-- A write to a register makes its request for the place that the session finds. -/
theorem triple_writeRegister (s : Session τ) (name : String) (value : Value)
    (width : Option TransferWidth) :
    Triple
      (fun t : Session (Recorded τ) => t.locate name width = s.locate name width ∧
        On (Handshake.writing s name width).Unseen t)
      (writeRegister name value width)
      (fun _ => On (Handshake.writing s name width).Confirmed)
      (fun e => On ((Handshake.writing s name width).Course (some e))) := by
  refine (triple_locateFor s name value width).bind fun place t found => ?_
  obtain ⟨located, unseen⟩ := found
  have rest : Confirms (.writing s name width) (do
      Action.log .debug .abstractCommand
        s!"Writing {Hex.text value.toNat} to {place.register.name} ({place.width.bits} bit transfer)"
      (List.range place.width.slots).forM fun slot => writeDmi (τ := Recorded τ) (.data slot) (value.word slot)
      moveRegister place true) := by
    refine (goes_log _ _ _).bind fun _ => ?_
    refine (Triple.forM fun slot _ => goes_write_unseen _ _).bind fun _ => ?_
    have requested : (Handshake.writing s name width).request
        (.write .command (AccessRegister.move place.register.number place.width true)) :=
      ⟨place, located, rfl⟩
    exact (goes_request requested).bind fun _ => goes_waitForCommand
  exact rest t unseen

/-- **Every operation with a handshake goes that way.** -/
theorem course_perform (s : Session τ) {op : Operation} {h : Handshake}
    (has : op.handshake? s = some h) :
    Ends (fun _ => On h.Confirmed) (fun e => On (h.Course (some e))) (op.perform.exec s.recorded) := by
  have begun : On h.Unseen s.recorded := by
    intro entry mem
    cases mem
  have ends : Triple (On (τ := τ) h.Confirmed) (pure Operation.Reply.done) (fun _ => On h.Confirmed)
      (fun e => On (h.Course (some e))) := .pure fun _ shown => shown
  have done : ∀ {x : Action DebugError (Session (Recorded τ)) Unit}, Confirms h x →
      Ends (fun _ => On h.Confirmed) (fun e => On (h.Course (some e)))
        ((do x; pure Operation.Reply.done).exec s.recorded) := fun confirms =>
    confirms.bind (fun _ => ends) s.recorded begun
  cases op with
  | halt => obtain rfl := Option.some.inj has; exact done confirms_halt
  | resume => obtain rfl := Option.some.inj has; exact done confirms_resume
  | resetHart => obtain rfl := Option.some.inj has; exact done confirms_resetHart
  | activateDm => obtain rfl := Option.some.inj has; exact done confirms_activateDm
  | deactivateDm => obtain rfl := Option.some.inj has; exact done confirms_deactivateDm
  | resetStickyError => obtain rfl := Option.some.inj has; exact done confirms_resetStickyError
  | hardResetDtm => obtain rfl := Option.some.inj has; exact done confirms_hardResetDtm
  | executeProgram => obtain rfl := Option.some.inj has; exact done confirms_executeProgram
  | clearCommandError => obtain rfl := Option.some.inj has; exact done confirms_clearCommandError
  | writeRegister name value width =>
    obtain rfl := Option.some.inj has
    exact (triple_writeRegister s name value width).bind (fun _ => ends) s.recorded ⟨rfl, begun⟩
  | _ => cases has

/-- **No success without an acknowledgement.**  Over a transport that can read values back, whatever it
answers, and from any state of the session: an operation with a handshake succeeds only if the transport
was asked what the operation is about, without an error, and later, in the last look of the same call, has
returned a value that acknowledges it.  Where the last look returns a value that does not, the operation
fails with an error that says so, and nothing more is asked of the transport. -/
theorem no_success_unacknowledged (s : Session τ) {op : Operation} {h : Handshake}
    (has : op.handshake? s = some h) :
    let outcome := (op.perform.exec s).1
    let record := (op.perform.exec s.recorded).2.transport.record
    (∀ reply, outcome = .ok reply → ∃ before request between w after,
      record = before ++ ⟨request, .done⟩ :: between ++ ⟨h.look, .value w⟩ :: after ∧
        h.request request ∧ h.confirmed w ∧ ∀ entry ∈ after, entry.access ≠ h.look) ∧
    (∀ before w after, record = before ++ ⟨h.look, .value w⟩ :: after →
      (∀ entry ∈ after, entry.access ≠ h.look) → ¬ h.confirmed w →
        (∃ e, outcome = .error e ∧ e.IsRefusal) ∧ after = []) := by
  have ended := course_perform s has
  have same := (simulates_perform_recorded op s.recorded s (alike_recorded s)).1
  rw [← same]
  generalize op.perform.exec s.recorded = ran at ended
  obtain ⟨outcome, s'⟩ := ran
  intro _ record
  cases outcome with
  | ok reply =>
    have shown : h.Course none record := .confirmed ended
    refine ⟨fun _ _ => ended, fun before w after split last refuted => ?_⟩
    obtain ⟨⟨e, impossible, -⟩, -⟩ := shown.refusal split last refuted
    cases impossible
  | error e =>
    refine ⟨nofun, fun before w after split last refuted => ?_⟩
    obtain ⟨⟨e', same, refusal⟩, nothing_more⟩ := ended.refusal split last refuted
    obtain rfl := Option.some.inj same
    exact ⟨⟨e, rfl, refusal⟩, nothing_more⟩

/-- A hart that halts when it is asked to, and one that does not. -/
theorem no_success_unacknowledged_of_each_hart :
    ∃ (obeys ignores : Session SimulatedModule),
      Operation.halt.handshake? obeys = some .halting ∧
      Operation.halt.handshake? ignores = some .halting ∧
      (Operation.halt.perform.exec obeys).1 = .ok .done ∧
      (∃ before request between w after,
        (Operation.halt.perform.exec obeys.recorded).2.transport.record =
            before ++ ⟨request, .done⟩ :: between ++ ⟨.read .dmstatus, .value w⟩ :: after ∧
          Handshake.halting.request request ∧ Handshake.halting.confirmed w ∧
          ∀ entry ∈ after, entry.access ≠ .read .dmstatus) ∧
      (Operation.halt.perform.exec ignores.recorded).2.transport.record =
        [⟨.write .dmcontrol (Dmcontrol.request Dmcontrol.haltreq), .done⟩,
          ⟨.read .dmstatus, .value 0xc82⟩] ∧
      ¬ Handshake.halting.confirmed 0xc82 ∧
      ∃ e, (Operation.halt.perform.exec ignores).1 = .error e ∧ e.IsRefusal := by
  let obeys : Session SimulatedModule :=
    .fresh { connected := true } {} { clock := .steady 1 (by decide) }
  let ignores : Session SimulatedModule :=
    .fresh { connected := true, ignoresHalt := true } {} { clock := .steady 1 (by decide) }
  have asked : (Operation.halt.perform.exec ignores.recorded).2.transport.record =
      [⟨.write .dmcontrol (Dmcontrol.request Dmcontrol.haltreq), .done⟩] ++
        [⟨.read .dmstatus, .value 0xc82⟩] := by decide
  have running : ¬ Handshake.halting.confirmed 0xc82 := by
    rintro ⟨all, -⟩
    revert all
    decide
  have halted : (Operation.halt.perform.exec obeys).1 = .ok .done := by
    unfold obeys
    rfl
  have has : ∀ s : Session SimulatedModule, Operation.halt.handshake? s = some .halting := fun _ => rfl
  refine ⟨obeys, ignores, has obeys, has ignores, halted, ?_, asked, running, ?_⟩
  · exact (no_success_unacknowledged obeys (has obeys)).1 .done halted
  · exact ((no_success_unacknowledged ignores (has ignores)).2 _ _ _ asked (by simp) running).1

end Session

end HartDebug
