import HartDebug.Proofs.Wire.InStep
import HartDebug.Proofs.Wire.ReplyText
import HartDebug.Proofs.Wire.StaleReplies

/-!
# Failures that replies speak of

An adapter says in a reply that a command has failed.  A call that sends two commands looks at the reply to
the second, and some calls look at none.

* `Service.Overlooks` — a call that takes no notice of a failure that one of its replies speaks of;
* `Service.accessed_ok_iff` — **what is made of such replies**;
* `Service.Gets` — an action that succeeds only with a number of replies;
* `Service.Serves.gets_access` — **a call that succeeds has got a reply to each of its commands**, whatever
  the stream brings;
* `failures_heeded` — **which failures are reported** on both services;
* `failures_heeded_after_failed_reset` — a reset of the port that has failed, and a selection that has.
-/

namespace HartDebug

open Action (Yields)

/-! ## What is made of replies that speak of failures -/

/-- A text that writes a number speaks of no failure. -/
theorem Reply.IsNumber.quiet {text : List Char} {n : Nat} (number : IsNumber text n) : ¬ Speaks text := by
  obtain ⟨mark, sign, digits, marked, signed, rfl, value⟩ := number
  intro speaks
  have letter : 'l' ∈ mark ++ sign ++ digits := speaks.subset (by decide)
  rw [List.mem_append, List.mem_append] at letter
  simp only [List.mem_cons, List.not_mem_nil, or_false] at marked signed
  rcases letter with (inside | inside) | inside
  · rcases marked with rfl | rfl | rfl <;> revert inside <;> decide
  · rcases signed with rfl | rfl <;> revert inside <;> decide
  · exact absurd (isSome_digitIn_of_natural? value 'l' inside) (by decide)

/-- Something is made of an outcome if and only if it is an answer. -/
theorem exists_map_eq_ok {ε α β : Type} (f : α → β) (outcome : Except ε α) :
    (∃ b, outcome.map f = .ok b) ↔ ∃ a, outcome = .ok a := by
  cases outcome with
  | ok a => exact iff_of_true ⟨f a, rfl⟩ ⟨a, rfl⟩
  | error e =>
    constructor
    · rintro ⟨_, impossible⟩
      cases impossible
    · rintro ⟨_, impossible⟩
      cases impossible

namespace Service

variable {service : Service}

/-- The call takes no notice of a failure that one of its replies speaks of: what a write to the register of
the transport and a reset of the port are answered is not looked at, and of what a scan with a value is
answered only the value is. -/
def Overlooks (service : Service) (bodies : List (List Byte)) : TransportCall → Prop
  | .writeDtmcs _ | .resetTap => True
  | .readDtmcs | .readIdcode | .expectIdcode _ =>
    ∃ v : Word, Reply.IsNumber (Text.trim (service.wording (bodies.getLastD []))).toList v.toNat
  | _ => False

theorem overlooks_readIdcode {bodies : List (List Byte)} {body : List Byte} {v : Word}
    (last : bodies.getLastD [] = body)
    (number : Reply.IsNumber (Text.trim (service.wording body)).toList v.toNat) :
    service.Overlooks bodies .readIdcode := by
  subst last
  exact ⟨v, number⟩

/-- The call has a register of the bus read or written. -/
def OnBus : TransportCall → Prop
  | .write _ _ | .read _ | .expect _ _ _ => True
  | _ => False

/-- A failure in the reply to the last command is overlooked only where no reply is looked at. -/
theorem overlooks_last {bodies : List (List Byte)} {call : TransportCall}
    (speaks : Reply.Speaks (Utf8.decode (bodies.getLastD []))) (overlooks : service.Overlooks bodies call) :
    call = .resetTap ∨ ∃ value, call = .writeDtmcs value := by
  have no_number : ¬ ∃ v : Word,
      Reply.IsNumber (Text.trim (service.wording (bodies.getLastD []))).toList v.toNat := fun number => by
    obtain ⟨v, writes⟩ := number
    exact writes.quiet (speaks_wording speaks).trim
  cases call with
  | resetTap => exact .inl rfl
  | writeDtmcs value => exact .inr ⟨value, rfl⟩
  | readDtmcs | readIdcode | expectIdcode _ => exact absurd overlooks no_number
  | _ => exact overlooks.elim

/-- A call on the bus fails with what its reply says. -/
theorem accessed_of_speaking {body : List Byte} (speaks : Reply.Speaks (Utf8.decode body))
    {call : TransportCall} (on_bus : OnBus call) :
    service.accessed body call = .error (.adapterFailure (service.wording body)) := by
  have said : Reply.Speaks (service.wording body).toList := speaks_wording speaks
  have failed : Reply.failed (service.wording body) = true := (Reply.failed_iff (service.wording body)).2 said
  have value : service.value body = .error (.adapterFailure (service.wording body)) :=
    (Reply.reading_of_text (service.wording body)).failure said
  cases call with
  | write address data =>
    show (service.acknowledged body).map _ = _
    rw [acknowledged, if_pos failed]
    rfl
  | read address =>
    show (service.value body).map _ = _
    rw [value]
    rfl
  | expect address expected mask =>
    show ((service.value body).map _).map _ = _
    rw [value]
    rfl
  | _ => exact on_bus.elim

variable {tap : String} {bodies : List (List Byte)} {call : TransportCall}

/-- **What is made of replies of which one speaks of a failure** is a success exactly if the failure is
overlooked. -/
theorem accessed_ok_iff (each : bodies.length = ((WireCall.access call).exchanges tap).length)
    (speaks : ∃ body ∈ bodies, Reply.Speaks (Utf8.decode body)) :
    (∃ answer, service.accessed (bodies.getLastD []) call = .ok answer) ↔ service.Overlooks bodies call := by
  let read := Reply.word (service.wording (bodies.getLastD []))
  have number : (∃ v, read = .ok v) ↔
      ∃ v : Word, Reply.IsNumber (Text.trim (service.wording (bodies.getLastD []))).toList v.toNat :=
    exists_congr (Reply.word_eq_ok_iff (service.wording (bodies.getLastD [])))
  have on_bus (bus : OnBus call) (single : bodies.length = 1) :
      (∃ answer, service.accessed (bodies.getLastD []) call = .ok answer) ↔ False := by
    obtain ⟨body, rfl⟩ := List.length_eq_one_iff.1 single
    have said : Reply.Speaks (Utf8.decode body) := by simpa using speaks
    refine iff_of_false (fun answered => ?_) id
    obtain ⟨answer, answered⟩ := answered
    rw [List.getLastD_cons, List.getLastD_nil, accessed_of_speaking said bus] at answered
    cases answered
  have silent (no_reply : bodies.length = 0) : False := by
    obtain rfl := List.length_eq_zero_iff.1 no_reply
    simp at speaks
  cases call with
  | write _ _ | read _ | expect _ _ _ => exact on_bus trivial each
  | writeDtmcs _ | resetTap => exact iff_of_true ⟨.done, rfl⟩ trivial
  | readDtmcs | readIdcode =>
    show (∃ answer, read.map TransportCall.Answer.word = .ok answer) ↔ _
    rw [exists_map_eq_ok]
    exact number
  | expectIdcode expected =>
    show (∃ answer, (read.map fun actual => if actual = expected then Check.passed else .failed actual).map
      TransportCall.Answer.check = .ok answer) ↔ _
    rw [exists_map_eq_ok, exists_map_eq_ok]
    exact number
  | connect | disconnect | idle _ | annotate _ => exact (silent each).elim

/-! ## Calls that have got their replies -/

/-- What stands in a number of replies, one after another, and what comes after them. -/
def bodies? (service : Service) : Nat → List Byte → Option (List (List Byte) × List Byte)
  | 0, octets => some ([], octets)
  | n + 1, octets => do
    let (body, between) ← service.body? octets
    let (bodies, rest) ← bodies? service n between
    some (body :: bodies, rest)

theorem length_of_bodies? {n : Nat} {octets rest : List Byte} {bodies : List (List Byte)}
    (got : service.bodies? n octets = some (bodies, rest)) : bodies.length = n := by
  induction n generalizing octets bodies with
  | zero =>
    cases got
    rfl
  | succ n ih =>
    obtain ⟨⟨body, between⟩, -, later⟩ := Option.bind_eq_some_iff.1 got
    obtain ⟨⟨bodies', rest'⟩, later, made⟩ := Option.bind_eq_some_iff.1 later
    cases made
    rw [List.length_cons, ih later]

section

variable {τ α β : Type} {awaits : List Byte → τ → Prop} {n : Nat} {made : List Byte → Except DebugError α}
  {x : Action DebugError τ α}

/-- An action that succeeds only with a number of replies: its answer is made of the last of them. -/
def Gets (service : Service) (awaits : List Byte → τ → Prop) (n : Nat)
    (made : List Byte → Except DebugError α) (x : Action DebugError τ α) : Prop :=
  ∀ octets t a t', awaits octets t → x.exec t = (.ok a, t') →
    ∃ bodies rest, service.bodies? n octets = some (bodies, rest) ∧ awaits rest t' ∧
      made (bodies.getLastD []) = .ok a

namespace Gets

/-- What reads nothing and changes nothing. -/
theorem none {r : Except DebugError α} (still : ∀ t, x.exec t = (r, t)) :
    service.Gets awaits 0 (fun _ => r) x := by
  intro octets t a t' waiting ran
  rw [still] at ran
  cases ran
  exact ⟨[], octets, rfl, waiting, rfl⟩

/-- A reading of one reply. -/
theorem one {f : List Byte → α} (h : Parses awaits (parseMap f service.body?) x) :
    service.Gets awaits 1 (fun body => .ok (f body)) x := by
  intro octets t a t' waiting ran
  have ended := h octets t waiting
  rw [ran] at ended
  obtain ⟨rest, parsed, waiting'⟩ := ended
  obtain ⟨⟨body, left⟩, taken, same⟩ := Option.map_eq_some_iff.1 parsed
  cases same
  exact ⟨[body], left, by rw [bodies?, taken]; rfl, waiting', rfl⟩

/-- One reply after another. -/
theorem andThen {y : Action DebugError τ β} {first : List Byte → Except DebugError α}
    {second : List Byte → Except DebugError β} (h : service.Gets awaits 1 first x)
    (h' : service.Gets awaits 1 second y) : service.Gets awaits 2 second (x >>= fun _ => y) := by
  intro octets t b t' waiting ran
  obtain ⟨a, between, ran_x, ran_y⟩ := Action.exec_bind_eq_ok ran
  obtain ⟨bodies, rest, got, waiting', -⟩ := h _ _ _ _ waiting ran_x
  obtain ⟨bodies', rest', got', waiting'', answer⟩ := h' _ _ _ _ waiting' ran_y
  obtain ⟨body, rfl⟩ := List.length_eq_one_iff.1 (length_of_bodies? got)
  obtain ⟨body', rfl⟩ := List.length_eq_one_iff.1 (length_of_bodies? got')
  obtain ⟨⟨_, between⟩, taken, later⟩ := Option.bind_eq_some_iff.1 got
  obtain ⟨_, left, made⟩ := Option.bind_eq_some_iff.1 later
  cases left
  cases made
  have both : service.bodies? 2 octets = some ([body, body'], rest') :=
    Option.bind_eq_some_iff.2 ⟨_, taken, Option.bind_eq_some_iff.2 ⟨_, got', rfl⟩⟩
  exact ⟨[body, body'], rest', both, waiting'', answer⟩

/-- What a reply says is made something of, without another reply. -/
theorem bind {said : List Byte → α} (h : service.Gets awaits n (fun body => .ok (said body)) x)
    {f : α → Action DebugError τ β} {g : α → Except DebugError β}
    (still : ∀ a t, (f a).exec t = (g a, t)) :
    service.Gets awaits n (fun body => g (said body)) (x >>= f) := by
  intro octets t b t' waiting ran
  obtain ⟨a, between, ran_x, ran_f⟩ := Action.exec_bind_eq_ok ran
  obtain ⟨bodies, rest, got, waiting', answer⟩ := h _ _ _ _ waiting ran_x
  rw [still] at ran_f
  obtain ⟨answer', rfl⟩ := Prod.mk.inj ran_f
  exact ⟨bodies, rest, got, waiting', (congrArg g (Except.ok.inj answer)).trans answer'⟩

theorem map (h : service.Gets awaits n made x) (f : α → β) :
    service.Gets awaits n (fun body => (made body).map f) (f <$> x) := by
  intro octets t b t' waiting ran
  obtain ⟨a, between, ran_x, same⟩ := Action.exec_bind_eq_ok ran
  obtain ⟨bodies, rest, got, waiting', answer⟩ := h _ _ _ _ waiting ran_x
  cases same
  exact ⟨bodies, rest, got, waiting', congrArg (·.map f) answer⟩

end Gets

end

section

variable {τ : Type} [Transport τ] [ReadsBack τ] {stands : List Byte → List Byte → τ → Prop}
  {tapName : τ → String} {run : Exchange → Action DebugError τ String}
  {select : String → Action DebugError τ String} {source : Source} {awaits : List Byte → τ → Prop}

/-- **A call that succeeds has got a reply to each of its commands**, whatever the stream brings and wherever
it fails, and its answer is made of the last of them. -/
theorem Serves.gets_access (serves : service.Serves stands tap tapName run select source)
    (answers : service.Answers awaits fun command => run (.printed command)) {f : List Byte → String}
    (selects : ∀ command, Parses awaits (parseMap f service.body?) (select command))
    (opens : call ≠ .connect) (closes : call ≠ .disconnect) :
    service.Gets awaits ((WireCall.access call).exchanges tap).length (fun body => service.accessed body call)
      call.perform := by
  have ran (command : String) : service.Gets awaits 1 (fun body => .ok (service.wording body))
      (run (.printed command)) := .one (answers command)
  have scanned (i : Instruction) (value : Word) : service.Gets awaits 2 (fun body => .ok (service.wording body))
      (Runs.scan select (fun command => run (.printed command)) tapName i value) := by
    intro octets t text t' waiting done
    -- The name of the tap is looked up first.
    rw [Runs.scan, Action.exec_bind_ok (Action.exec_get t)] at done
    exact ((Gets.one (selects _)).map fun _ => PUnit.unit).andThen (ran _) octets t text t' waiting done
  have read (address : BusAddress) : service.Gets awaits 1 service.value (Bus.read address) := by
    have value := (ran s!"riscv dmi_read {Hex.text address.toNat}").bind
      fun text t => exec_readingOf source text t
    rw [serves.read_eq]
    exact value
  have idcode : service.Gets awaits 2 (fun body => Reply.word (service.wording body)) Bus.readIdcode := by
    have word := (scanned .idcode 0).bind fun text t => Action.exec_ofExcept (Reply.word text) t
    rw [serves.readIdcode_eq]
    exact word
  cases call with
  | connect => exact absurd rfl opens
  | disconnect => exact absurd rfl closes
  | write address data =>
    have acknowledged := (ran s!"riscv dmi_write {Hex.text address.toNat} {Hex.text data.toNat}").bind
      fun text t => exec_acknowledged source text t
    rw [TransportCall.perform, serves.write_eq]
    exact acknowledged.map fun _ => TransportCall.Answer.done
  | read address => exact (read address).map TransportCall.Answer.word
  | expect address expected mask =>
    rw [TransportCall.perform, ReadsBack.expect_eq]
    let check (actual : Word) : Check := if actual &&& mask = expected &&& mask then .passed else .failed actual
    have compared := ((read address).map check).map TransportCall.Answer.check
    simp only [Bus.readAndCompare, ← apply_ite pure]
    exact compared
  | writeDtmcs value =>
    rw [TransportCall.perform, serves.writeDtmcs_eq]
    exact ((scanned .dtmcs value).map fun _ => ()).map fun _ => TransportCall.Answer.done
  | readDtmcs =>
    rw [TransportCall.perform, serves.readDtmcs_eq]
    have word := (scanned .dtmcs 0).bind fun text t => Action.exec_ofExcept (Reply.word text) t
    exact word.map TransportCall.Answer.word
  | readIdcode => exact idcode.map TransportCall.Answer.word
  | expectIdcode expected =>
    rw [TransportCall.perform, ReadsBack.expectIdcode_eq]
    have compared := idcode.map fun actual => if actual = expected then Check.passed else .failed actual
    simp only [Bus.readAndCompareIdcode, ← apply_ite pure]
    exact compared.map TransportCall.Answer.check
  | resetTap =>
    rw [TransportCall.perform, serves.resetTap_eq]
    exact ((Gets.one (selects _)).map fun _ => ()).map fun _ => TransportCall.Answer.done
  | idle cycles =>
    rw [TransportCall.perform, serves.idle_eq]
    exact .none fun _ => rfl
  | annotate note =>
    rw [TransportCall.perform, serves.annotate_eq]
    exact .none fun _ => rfl

/-- Which failures that replies speak of a session reports.  Where a reply has come to each command of a call,
and one of them speaks of a failure, the call fails exactly if it does not overlook it, and a call on the bus
with what the reply says.  Whatever else a stream brings and wherever it fails, a call that succeeds has got a
reply to each of its commands, and has overlooked whatever failure they speak of. -/
structure HeedsFailures (service : Service) (stands : List Byte → List Byte → τ → Prop)
    (awaits : List Byte → τ → Prop) (tap : String) : Prop where
  answered : ∀ {call : TransportCall}, call ≠ .connect → call ≠ .disconnect →
    ∀ {replies : List service.WholeReply}, replies.length = ((WireCall.access call).exchanges tap).length →
      (∃ reply ∈ replies, Reply.Speaks (Utf8.decode reply.body)) → ∀ sent rest, ∃ outcome,
        Yields (stands sent (octetsOf replies ++ rest)) call.perform outcome
            (stands (sent ++ ((WireCall.access call).exchanges tap).flatMap service.line) rest) ∧
          ((∃ answer, outcome = .ok answer) ↔ service.Overlooks (replies.map (·.body)) call) ∧
          (OnBus call → outcome = .error (.adapterFailure (service.wording (lastBody replies))))
  brought : ∀ {call : TransportCall}, call ≠ .connect → call ≠ .disconnect →
    ∀ {octets t answer t'}, awaits octets t → call.perform.exec t = (.ok answer, t') →
      ∃ bodies rest, service.bodies? ((WireCall.access call).exchanges tap).length octets = some (bodies, rest) ∧
        awaits rest t' ∧
        ((∃ body ∈ bodies, Reply.Speaks (Utf8.decode body)) → service.Overlooks bodies call)

theorem Serves.heedsFailures (serves : service.Serves stands tap tapName run select source)
    (answers : service.Answers awaits fun command => run (.printed command)) {f : List Byte → String}
    (selects : ∀ command, Parses awaits (parseMap f service.body?) (select command)) :
    service.HeedsFailures stands awaits tap where
  answered {call} opens closes {replies} each speaks sent rest := by
    have sizes : (replies.map (·.body)).length = ((WireCall.access call).exchanges tap).length :=
      (List.length_map _).trans each
    have spoken : ∃ body ∈ replies.map (·.body), Reply.Speaks (Utf8.decode body) := by
      obtain ⟨reply, mem, said⟩ := speaks
      exact ⟨reply.body, List.mem_map_of_mem mem, said⟩
    refine ⟨_, serves.yields_access opens closes each sent rest, accessed_ok_iff sizes spoken, fun on_bus => ?_⟩
    -- A call on the bus gets one reply, which is the one that speaks of a failure.
    have single : replies.length = 1 := by
      cases call with
      | write _ _ | read _ | expect _ _ _ => exact each
      | _ => exact on_bus.elim
    obtain ⟨reply, rfl⟩ := List.length_eq_one_iff.1 single
    have said : Reply.Speaks (Utf8.decode reply.body) := by simpa using speaks
    exact accessed_of_speaking said on_bus
  brought {_} opens closes {_ _ answer _} waiting ran := by
    obtain ⟨bodies, rest, got, waiting', made⟩ :=
      serves.gets_access answers selects opens closes _ _ _ _ waiting ran
    exact ⟨bodies, rest, got, waiting', fun spoken =>
      (accessed_ok_iff (length_of_bodies? got) spoken).1 ⟨answer, made⟩⟩

end

end Service

/-! ## The services -/

/-- **Which failures are reported** on both services, over every stream that delivers, and over every stream that
fails now and then.  A read or a write of the bus whose reply speaks of a failure fails with it.  A scan with a
value overlooks a failure in the reply to its first command, the selection of the instruction, if what is
answered to the second is a number.  A write to the register of the transport and a reset of the port overlook
every failure, and they alone one in the last of their replies. -/
theorem failures_heeded {σ : Type} [ByteStream σ] {holds brings : List Byte → σ → Prop}
    (delivers : ByteStream.Delivers holds) (carries : ByteStream.Carries brings) (tap : String) :
    Service.console.HeedsFailures (Console.Stands holds tap) (Console.Awaits brings) tap ∧
      Service.tcl.HeedsFailures (TclServer.Stands holds tap) (TclServer.Awaits brings) tap ∧
      ∀ (service : Service) {bodies : List (List Byte)} {call : TransportCall},
        Reply.Speaks (Utf8.decode (bodies.getLastD [])) → service.Overlooks bodies call →
          call = .resetTap ∨ ∃ value, call = .writeDtmcs value :=
  ⟨(Console.serves delivers tap).heedsFailures (Console.answers_over carries) (Console.answers_over carries),
    (TclServer.serves delivers tap).heedsFailures (TclServer.answers_over carries) (TclServer.parses_send carries),
    fun _ => Service.overlooks_last⟩

/-- On the Tcl server a reset of the port that is answered by a failure succeeds, and so does on the console a
scan of the identification whose selection has failed.  A read of the bus that is answered in the same way
fails. -/
theorem failures_heeded_after_failed_reset :
    let script (pieces : List String) : ScriptedStream :=
      { incoming := pieces.map fun piece => .octets (plainOctets piece) }
    let t := TclServer.ofStream (script ["Failed\x1a"]) {} fun _ => .error .ended
    let c := Console.ofStream (script ["irscan\r\nFailed\r\n> ", "drscan\r\n0x913\r\n> "]) {} fun _ => .error .ended
    ByteStream.Delivers ScriptedStream.Brings ∧ ByteStream.Carries ScriptedStream.Holds ∧
      (∃ answer t', TransportCall.resetTap.perform.exec t = (.ok answer, t')) ∧
      (∃ t', (TransportCall.read .dmstatus).perform.exec t = (.error (.adapterFailure "Failed"), t')) ∧
      ∃ answer c', TransportCall.readIdcode.perform.exec c = (.ok answer, c') := by
  intro script t c
  obtain ⟨console, tcl, -⟩ := failures_heeded ScriptedStream.delivers ScriptedStream.carries "riscv.cpu"
  have spoken {body : List Byte} (failed : body = plainOctets "Failed" ∨ body = plainOctets "Failed\r\n") :
      Reply.Speaks (Utf8.decode body) := by
    refine Reply.occursIn_iff.1 ?_
    rcases failed with rfl | rfl <;> decide +kernel
  have unlimited : (none : Option Nat) ≠ some 0 := by decide
  let failed : Service.tcl.WholeReply := .marked (plainOctets "Failed") (by decide)
  have on_tcl : t.Stands ScriptedStream.Brings "riscv.cpu" [] (Service.octetsOf [failed] ++ []) :=
    ⟨rfl, _, rfl, rfl, _, ⟨⟨[plainOctets "Failed\x1a"], rfl, by decide, by decide +kernel⟩, rfl, unlimited⟩,
      rfl⟩
  have said : ∃ reply ∈ [failed], Reply.Speaks (Utf8.decode reply.body) :=
    ⟨failed, List.mem_cons_self, spoken (.inl rfl)⟩
  refine ⟨ScriptedStream.delivers, ScriptedStream.carries, ?_, ?_, ?_⟩
  · obtain ⟨outcome, ran, overlooks, -⟩ :=
      tcl.answered (by decide : TransportCall.resetTap ≠ .connect) (by decide) rfl said [] []
    obtain ⟨answer, rfl⟩ := overlooks.2 trivial
    obtain ⟨t', ran, -⟩ := ran t on_tcl
    exact ⟨answer, t', ran⟩
  · obtain ⟨outcome, ran, -, reported⟩ :=
      tcl.answered (by decide : TransportCall.read .dmstatus ≠ .connect) (by decide) rfl said [] []
    obtain ⟨t', ran, -⟩ := ran t on_tcl
    have text : Service.tcl.wording (Service.lastBody [failed]) = "Failed" := by
      show Service.tcl.wording (plainOctets "Failed") = "Failed"
      decide +kernel
    rw [reported trivial, text] at ran
    exact ⟨t', ran⟩
  · have apart : ∀ {answer : List Byte}, ¬ [0x3e, 0x20] <:+: answer → ¬ Console.prompt <:+: answer :=
      fun whole => Console.bytes_prompt ▸ whole
    let selected : Service.console.WholeReply := .lined (plainOctets "irscan\r") (plainOctets "Failed\r\n")
      (by decide) (by decide) (apart (by decide +kernel))
    let shifted : Service.console.WholeReply := .lined (plainOctets "drscan\r") (plainOctets "0x913\r\n")
      (by decide) (by decide) (apart (by decide +kernel))
    have pieces : (["irscan\r\nFailed\r\n> ", "drscan\r\n0x913\r\n> "].map plainOctets).flatten =
        Service.octetsOf [selected, shifted] ++ [] := by
      simp only [selected, shifted, Service.octetsOf, Service.WholeReply.lined, Console.bytes_prompt,
        List.flatMap_cons, List.flatMap_nil]
      decide +kernel
    have on_console : c.Stands ScriptedStream.Brings "riscv.cpu" []
        (Service.octetsOf [selected, shifted] ++ []) :=
      ⟨rfl, _, rfl, rfl, _, ⟨⟨_, rfl, by decide, pieces⟩, rfl, unlimited⟩, rfl⟩
    have said : ∃ reply ∈ [selected, shifted], Reply.Speaks (Utf8.decode reply.body) :=
      ⟨selected, List.mem_cons_self, spoken (.inr rfl)⟩
    obtain ⟨outcome, ran, overlooks, -⟩ :=
      console.answered (by decide : TransportCall.readIdcode ≠ .connect) (by decide) rfl said [] []
    have number : Reply.IsNumber (Text.trim (Service.console.wording (plainOctets "0x913\r\n"))).toList
        (0x913 : Word).toNat :=
      (Reply.word_eq_ok_iff _ 0x913).1 (by decide +kernel)
    have last : ([selected, shifted].map (·.body)).getLastD [] = plainOctets "0x913\r\n" := rfl
    obtain ⟨answer, rfl⟩ := overlooks.2 (Service.overlooks_readIdcode last number)
    obtain ⟨c', ran, -⟩ := ran c on_console
    exact ⟨answer, c', ran⟩

end HartDebug
