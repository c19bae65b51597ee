import HartDebug.Proofs.Session.Parts
import HartDebug.Proofs.Session.Polling
import HartDebug.Proofs.Triples

/-!
# Operations on a transport that refuses

A transport that is not connected fails every access with the same error.  An operation on it may be over before
it comes to an access, because its arguments are refused or because it needs none; otherwise its first access is
its last one, and the error of that is its own.

* `Transport.Refuses` — every access fails and leaves the transport as it is;
* `Session.Balks`, `Session.composes_balks` — **actions go no further than their first access**;
* `Session.EndsAtFirstAccess`, `Session.endsAtFirstAccess` — **so does every operation**, on every transport
  whose expectations are reads.
-/

namespace HartDebug

open Action (Triple Ends)

variable {τ α : Type} [Transport τ]

/-- Every access to the transport fails with the error and leaves the transport as it is; connecting and
disconnecting are left out. -/
structure Transport.Refuses (e : DebugError) (t : τ) : Prop where
  write : ∀ address data, (Bus.write address data).exec t = (.error e, t)
  read : ∀ address, (Bus.read address).exec t = (.error e, t)
  writeDtmcs : ∀ value, (Bus.writeDtmcs value).exec t = (.error e, t)
  readDtmcs : Bus.readDtmcs.exec t = (.error e, t)
  readIdcode : Bus.readIdcode.exec t = (.error e, t)
  resetTap : Bus.resetTap.exec t = (.error e, t)

namespace Session

/-! ## Actions -/

/-- From a transport under record, the action makes no access; or its first access is refused, and the action
fails with the error of that. -/
abbrev Balks (e : DebugError) (r : Recorded τ) (x : Action DebugError (Session (Recorded τ)) α) : Prop :=
  Triple (fun s => s.transport = r) x (fun _ s => s.transport = r) fun e' s =>
    s.transport = r ∨ e' = e ∧ ∃ access, s.transport = ⟨r.bus, r.record ++ [⟨access, .failed e⟩]⟩

variable {e : DebugError} {r : Recorded τ}

omit [Transport τ] in
/-- A run of such an action, however it has ended. -/
theorem Balks.stops {x : Action DebugError (Session (Recorded τ)) α} (balks : Balks e r x)
    {s : Session (Recorded τ)} (here : s.transport = r) :
    (x.exec s).2.transport = r ∨ (x.exec s).1 = .error e ∧
      ∃ access, (x.exec s).2.transport = ⟨r.bus, r.record ++ [⟨access, .failed e⟩]⟩ := by
  have ended := balks s here
  generalize x.exec s = ran at ended ⊢
  rcases ran with ⟨e' | a, t⟩
  · rcases ended with same | ⟨rfl, listed⟩
    · exact .inl same
    · exact .inr ⟨rfl, listed⟩
  · exact .inl ended

omit [Transport τ] in
/-- An access that is refused. -/
theorem balks_enter {access : Access} {answer : α → Answer} {x : Action DebugError τ α}
    (refused : x.exec r.bus = (.error e, r.bus)) :
    Balks e r (onTransport (Recorded.enter access answer x)) := by
  rintro s rfl
  rw [exec_onTransport, Recorded.exec_enter, refused]
  exact .inr ⟨rfl, access, rfl⟩

section

variable (refuses : Transport.Refuses e r.bus)

include refuses

theorem balks_readDmi (address : BusAddress) : Balks e r (readDmi address) :=
  .bind (balks_enter (refuses.read address)) fun _ => .bind (.log _ _ _ fun _ same => same) fun _ =>
    .pure fun _ same => same

theorem balks_writeDmi (address : BusAddress) (data : Word) : Balks e r (writeDmi address data) :=
  .bind (.log _ _ _ fun _ same => same) fun _ => balks_enter (refuses.write address data)

theorem balks_pollOnce (deadline : Nat) : Balks e r (pollOnce deadline) := by
  refine (balks_readDmi refuses _).bind fun abstractcs => ?_
  split
  · have looked : Balks e r lookAtClock := fun s same => same
    have paused : Balks e r pause := fun s same => same
    refine looked.bind fun now => ?_
    split
    · exact .get_bind fun s same => .inl same
    · exact paused.bind fun _ => .pure fun _ same => same
  · exact .pure fun _ same => same

theorem balks_pollAbstractcs : Balks e r pollAbstractcs := by
  have looked : Balks e r lookAtClock := fun s same => same
  refine looked.bind fun started => .get_bind fun s same => ?_
  refine triple_pollUntil_of_looks ((balks_pollOnce refuses _).consequence (fun _ h => h) ?_ fun _ _ h => h) s same
  rintro (_ | abstractcs) t same
  · exact same
  · exact same

variable [ReadsBack τ]

theorem balks_waitForCommand : Balks e r waitForCommand := by
  refine .get_bind fun s same => ?_
  rw [isLive_eq_true, if_pos rfl]
  refine (balks_pollAbstractcs refuses).bind (fun abstractcs => ?_) s same
  split
  · exact .pure fun _ same => same
  · exact .throw fun _ same => .inl same

theorem balks_clearCommandError : Balks e r clearCommandError := by
  refine (balks_writeDmi refuses _ _).bind fun _ => .get_bind fun s same => ?_
  rw [isLive_eq_true, if_pos rfl]
  refine (balks_pollAbstractcs refuses).bind (fun abstractcs => ?_) s same
  split
  · exact .pure fun _ same => same
  · exact fun s same => .inl same

/-- **Actions go no further than their first access**, as their parts do not. -/
theorem composes_balks :
    Composes (fun {α} (x : Action DebugError (Session (Recorded τ)) α) => Balks e r x) where
  congr part same := Triple.congr part same
  pure _ := .pure fun _ same => same
  throw _ := .throw fun _ same => .inl same
  log _ _ _ := .log _ _ _ fun _ same => same
  modify kept := .modify fun s same => (kept s).trans same
  bind first second := Triple.bind first second
  get_bind each := .get_bind fun s same => each s s same
  write data _ _ := balks_enter (refuses.write _ data)
  read address := balks_enter (refuses.read address)
  writeDtmcs value := balks_enter (refuses.writeDtmcs value)
  readDtmcs := balks_enter refuses.readDtmcs
  readIdcode := balks_enter refuses.readIdcode
  resetTap := balks_enter refuses.resetTap
  command w := (balks_writeDmi refuses _ w).bind fun _ => balks_waitForCommand refuses
  waitForCommand := balks_waitForCommand refuses

variable (plain : e ≠ .command .exception)

include plain

/-- A dump takes no other error than an exception for an answer, so it ends with the first register. -/
theorem balks_dumpNames (group : RegisterGroup) (width : Option TransferWidth) :
    ∀ names : List String, Balks e r (dumpNames group width names)
  | [] => .pure fun _ same => same
  | name :: rest => by
    have read := (composes_balks refuses).parts.readRegister name width
    refine (Triple.attempt read).bind fun outcome => ?_
    split
    · exact (balks_dumpNames group width rest).bind fun others => .pure fun _ same => same
    · refine fun s ended => ((balks_clearCommandError refuses).bind fun _ => .pure fun _ same => same) s ?_
      exact ended.resolve_right fun refused => plain refused.1.symm
    · exact fun s ended => ended

/-- **So does every operation**, connecting and disconnecting apart. -/
theorem balks_perform {op : Operation} (keeps : op.KeepsConnection) : Balks e r op.perform := by
  by_cases raw : ∃ address data, op = .writeDmi address data
  · obtain ⟨address, data, rfl⟩ := raw
    exact (balks_writeDmi refuses address data).bind fun _ => .pure fun _ same => same
  · refine (composes_balks refuses).parts.perform (fun address data same => raw ⟨address, data, same⟩)
      (fun same => absurd same keeps.1) (fun same => absurd same keeps.2)
      (fun _ => balks_clearCommandError refuses) fun group width _ => ?_
    exact balks_dumpNames refuses plain group width _

end

/-! ## Operations -/

variable [ReadsBack τ]

/-- What an operation does that comes to at most one access: it leaves the transport as it is, and if it comes to
an access, that is refused and the operation fails with the error of it. -/
structure EndsAtFirstAccess (e : DebugError) (op : Operation) (s : Session τ) : Prop where
  /-- The record by which the accesses are known makes no difference to the outcome. -/
  outcome : (op.perform.exec s.recorded).1 = (op.perform.exec s).1
  transport : (op.perform.exec s).2.transport = s.transport
  record : (op.perform.exec s.recorded).2.transport.record = [] ∨
    ∃ access, (op.perform.exec s.recorded).2.transport.record = [⟨access, .failed e⟩] ∧
      (op.perform.exec s).1 = .error e

theorem endsAtFirstAccess {s : Session τ} (refuses : Transport.Refuses e s.transport)
    (plain : e ≠ .command .exception) {op : Operation} (keeps : op.KeepsConnection) :
    EndsAtFirstAccess e op s := by
  obtain ⟨outcome, alike⟩ := simulates_perform_recorded op s.recorded s (alike_recorded s)
  have beneath : (op.perform.exec s.recorded).2.transport.bus = (op.perform.exec s).2.transport := alike.transport
  have stopped := (balks_perform (r := s.recorded.transport) refuses plain keeps).stops rfl
  refine ⟨outcome, ?_, ?_⟩
  · rw [← beneath]
    rcases stopped with same | ⟨-, access, listed⟩
    · rw [same]
      rfl
    · rw [listed]
      rfl
  · rw [← outcome]
    rcases stopped with same | ⟨failed, access, listed⟩
    · exact .inl (congrArg (·.record) same)
    · exact .inr ⟨access, congrArg (·.record) listed, failed⟩

end Session

end HartDebug
