import HartDebug.Proofs.Effects
import HartDebug.Proofs.Session.Places
import HartDebug.Proofs.Session.Recorded
import HartDebug.Target.Scripted
import Mathlib.Data.List.Forall2
import Mathlib.Data.List.GetD

/-!
# Reading a register and checking it

A read puts the words of a register together and takes the bits that count; a check compares word by word,
each under its part of the mask, and ends at the first that is other than expected.  Where an expectation is a
read that is compared, the two agree, whatever the transport answers and wherever it fails.

* `Session.Compared` — how a check ends beside a read;
* `Session.Agree`, `Session.Differs` — words that are as expected, and the error of one that is not;
* `Session.compared_words` — **words compared one after another are words read and then compared**;
* `Session.agree_iff` — words agree with those of a value exactly if they make up the value;
* `Session.compared_register` — a check of a register beside a read of it;
* `Session.expectRegister_agrees_with_readRegister` — **which outcomes follow from each other**, on every
  transport that leaves expectations at their default.
-/

namespace HartDebug.Session

variable {τ α : Type}

/-! ### A check beside a read -/

/-- How a check ends beside a read from the same state: it answers if what is read is good, and otherwise
ends in an error of its own; a read that fails fails the check alike, unless that has ended before. -/
inductive Compared (good : α → Prop) (own : DebugError → Prop) :
    Except DebugError α × Session τ → Except DebugError Unit × Session τ → Prop where
  | agree {a : α} {t : Session τ} (same : good a) : Compared good own (.ok a, t) (.ok (), t)
  | differ {a : α} {t u : Session τ} {e : DebugError} (other : ¬ good a) (raised : own e) :
      Compared good own (.ok a, t) (.error e, u)
  | early {t u : Session τ} {e e' : DebugError} (raised : own e') :
      Compared good own (.error e, t) (.error e', u)
  | failed {t : Session τ} {e : DebugError} : Compared good own (.error e, t) (.error e, t)

/-- A check answers exactly if the read answers the one good value, and both leave the session alike. -/
theorem Compared.ok_iff {own : DebugError → Prop} {v : α} {read : Except DebugError α × Session τ}
    {check : Except DebugError Unit × Session τ} (h : Compared (· = v) own read check) (t : Session τ) :
    check = (.ok (), t) ↔ read = (.ok v, t) := by
  cases h with
  | agree same => simp [same]
  | differ other _ => simp [other]
  | early _ => simp
  | failed => simp

/-- A check ends in an error of its own if the read answers another value. -/
theorem Compared.own_of_other {own : DebugError → Prop} {u v : α} {read : Except DebugError α × Session τ}
    {check : Except DebugError Unit × Session τ} (h : Compared (· = v) own read check)
    (answered : read.1 = .ok u) (distinct : u ≠ v) : ∃ e, check.1 = .error e ∧ own e := by
  cases h with
  | agree same => exact absurd ((Except.ok.inj answered).symm.trans same) distinct
  | differ _ raised => exact ⟨_, rfl, raised⟩
  | early _ => cases answered
  | failed => cases answered

/-- What is made of the answer of a read is good for the same check as the answer. -/
theorem Compared.map {β : Type} {good : α → Prop} {good' : β → Prop} {own : DebugError → Prop}
    {read : Except DebugError α × Session τ} {read' : Except DebugError β × Session τ}
    {check : Except DebugError Unit × Session τ} {f : α → β} (h : Compared good own read check)
    (made : ∀ {a t}, read = (.ok a, t) → (good a ↔ good' (f a))) (same : read' = (read.1.map f, read.2)) :
    Compared good' own read' check := by
  subst same
  cases h with
  | agree same => exact .agree ((made rfl).1 same)
  | differ other raised => exact .differ (fun same => other ((made rfl).2 same)) raised
  | early raised => exact .early raised
  | failed => exact .failed

variable [Transport τ]

/-! ### Word by word -/

section Words

/-- The words are as expected, each under its mask. -/
def Agree (expected mask : Nat → Word) (slots : List Nat) (words : List Word) : Prop :=
  List.Forall₂ (fun slot word => word &&& mask slot = expected slot &&& mask slot) slots words

/-- The error of a word that is other than expected. -/
def Differs (expected mask : Nat → Word) (failure : String) (slots : List Nat) (e : DebugError) : Prop :=
  ∃ slot ∈ slots, ∃ word, word &&& mask slot ≠ expected slot &&& mask slot ∧
    e = .protocol (.mismatch failure (.data slot) word (expected slot) (mask slot))

variable {expected mask : Nat → Word} {failure : String} {slots : List Nat} {slot : Nat}

theorem Differs.cons {e : DebugError} (differs : Differs expected mask failure slots e) :
    Differs expected mask failure (slot :: slots) e := by
  obtain ⟨other, mem, word, mismatch, raised⟩ := differs
  exact ⟨other, List.mem_cons_of_mem slot mem, word, mismatch, raised⟩

variable (compares : (Transport.expect : BusAddress → Word → Word → Action DebugError τ Check) =
  Bus.readAndCompare)

include compares

/-- An expectation ends as a read does, or in the error of a word that is other than expected. -/
theorem exec_expectDmi_of_read (address : BusAddress) (expected mask : Word) (failure : String)
    (s : Session τ) :
    (expectDmi address expected mask failure).exec s =
      match (readDmi address).exec s with
      | (.error e, t) => (.error e, t)
      | (.ok word, t) =>
        (if word &&& mask = expected &&& mask then .ok ()
          else .error (.protocol (.mismatch failure address word expected mask)), t) := by
  rw [exec_expectDmi_of_default compares, readDmi, Action.exec_bind, Action.exec_bind]
  rcases (onTransport (Bus.read address)).exec s with ⟨_ | word, t⟩
  · rfl
  · simp only [Action.exec_bind, Action.exec_log, Action.exec_pure]
    split
    · rfl
    · exact exec_failLogged _ _ t

/-- **Words compared one after another** are words that are read one after another and then compared, except
that the comparison ends at the first word that is other than expected.  The induction is on the words that
are still to come. -/
theorem compared_words (expected mask : Nat → Word) (failure : String) (slots : List Nat)
    (s : Session τ) :
    Compared (Agree expected mask slots) (Differs expected mask failure slots)
      ((slots.mapM fun slot => readDmi (.data slot)).exec s)
      ((slots.forM fun slot =>
        expectDmi (.data slot) (expected slot) (mask slot) failure).exec s) := by
  induction slots generalizing s with
  | nil => exact .agree .nil
  | cons slot slots ih =>
    show Compared _ _ _ ((expectDmi (.data slot) (expected slot) (mask slot) failure >>= fun _ =>
      slots.forM fun slot => expectDmi (.data slot) (expected slot) (mask slot) failure).exec s)
    rw [Action.mapM_cons, Action.exec_bind, Action.exec_bind, exec_expectDmi_of_read compares]
    rcases (readDmi (.data slot)).exec s with ⟨e | word, t⟩
    · exact .failed
    · have rest := ih t
      dsimp only
      rw [Action.exec_bind]
      generalize (slots.mapM fun slot => readDmi (.data slot)).exec t = read at rest
      generalize ran : Action.exec (slots.forM _) t = check at rest
      by_cases same : word &&& mask slot = expected slot &&& mask slot
      · rw [if_pos same]
        dsimp only
        rw [ran]
        cases rest with
        | agree agree => exact .agree (.cons same agree)
        | differ other differs =>
          exact .differ (fun agree => other (List.forall₂_cons.1 agree).2) differs.cons
        | early differs => exact .early differs.cons
        | failed => exact .failed
      · -- The comparison has ended; how the reads go on makes no difference.
        have differs : Differs expected mask failure (slot :: slots) _ :=
          ⟨slot, List.mem_cons_self, word, same, rfl⟩
        rw [if_neg same]
        rcases read with ⟨e | words, u⟩
        · exact .early differs
        · exact .differ (fun agree => same (List.forall₂_cons.1 agree).1) differs

end Words

/-! ### Registers -/

variable {s : Session τ} {name : String} {width : Option TransferWidth} {place : Place} {v : Value}

omit [Transport τ] in
/-- **Words agree with those of a value** under the mask of the bits that count, exactly if they make up the
value. -/
theorem agree_iff (located : s.locate name width = .ok place) (fits : v.Fits place.bits) {words : List Word}
    (length : words.length = place.width.slots) :
    Agree v.word (Value.lowMask place.bits).word (List.range place.width.slots) words ↔
      Value.ofWords words &&& Value.lowMask place.bits = v := by
  have slots := place.width.slots_le
  have room := bits_le_of_locate located
  rw [place.width.bits_eq_slots] at room
  have whole : v &&& Value.lowMask place.bits = v :=
    Value.and_lowMask_of_fits fits (Nat.le_refl _) (bits_le_of_locate_most located)
  have by_words := Value.and_lowMask_eq_iff (Value.ofWords words) v room slots
  rw [whole] at by_words
  rw [by_words, Agree, List.forall₂_iff_get]
  simp only [Value.word_ofWords (length ▸ slots), List.get_eq_getElem, List.getElem_range,
    List.length_range]
  constructor
  · rintro ⟨-, each⟩ slot below
    rw [List.getD_eq_getElem words 0 (length ▸ below)]
    exact each slot below (length ▸ below)
  · intro each
    refine ⟨length.symm, fun slot below within => ?_⟩
    rw [← List.getD_eq_getElem words 0 within]
    exact each slot below

/-- What a check says if the register does not hold the value. -/
def Place.failure (place : Place) (v : Value) : String :=
  s!"{place.register.name} does not hold {Hex.text v.toNat}"

/-- The error of a register that does not hold the value: a word of it is other than expected. -/
def Place.Mismatch (place : Place) (v : Value) : DebugError → Prop :=
  Differs v.word (Value.lowMask place.bits).word (place.failure v) (List.range place.width.slots)

theorem exec_expectRegister_of_unknown (v : Value) {e : DebugError}
    (unknown : s.locate name width = .error e) : (expectRegister name v width).exec s = (.error e, s) := by
  have refused : s.placeRefusal? name v width = some e := by
    rw [placeRefusal?, unknown]
  rw [expectRegister, Action.exec_bind_error (exec_locateFor_refused refused)]

/-- A check whose place is known copies the register and compares the words. -/
theorem exec_expectRegister_of_located (located : s.locate name width = .ok place)
    (fits : v.Fits place.bits) :
    (expectRegister name v width).exec s =
      (moveRegister place false >>= fun _ => (List.range place.width.slots).forM fun slot =>
        expectDmi (.data slot) (v.word slot) ((Value.lowMask place.bits).word slot)
          (place.failure v)).exec s := by
  rw [expectRegister, Action.exec_bind_ok (exec_locateFor located fits)]
  rfl

/-- How a check of a register for a value and a read of the register answer to each other. -/
structure ReadAndCheckAgree (s : Session τ) (name : String) (v : Value) (width : Option TransferWidth) :
    Prop where
  /-- The check succeeds exactly if the read answers the value, and then both leave the session alike. -/
  ok_iff : ∀ t, (expectRegister name v width).exec s = (.ok (), t) ↔
    (readRegister name width).exec s = (.ok v, t)
  /-- A name that is not known is refused alike, before anything is done. -/
  unknown : ∀ e, s.locate name width = .error e →
    (readRegister name width).exec s = (.error e, s) ∧ (expectRegister name v width).exec s = (.error e, s)
  /-- A register that cannot be copied into the operand registers fails both alike. -/
  copy : ∀ place e t, s.locate name width = .ok place → (moveRegister place false).exec s = (.error e, t) →
    (readRegister name width).exec s = (.error e, t) ∧ (expectRegister name v width).exec s = (.error e, t)
  /-- If the read answers another value, the check reports one of the operand registers. -/
  other : ∀ u, ((readRegister name width).exec s).1 = .ok u → u ≠ v →
    ∃ place, s.locate name width = .ok place ∧ ∃ slot < place.width.slots, ∃ word,
      ((expectRegister name v width).exec s).1 = .error (.protocol (.mismatch (place.failure v) (.data slot)
        word (v.word slot) ((Value.lowMask place.bits).word slot)))

section Default

variable (compares : (Transport.expect : BusAddress → Word → Word → Action DebugError τ Check) =
  Bus.readAndCompare) (live : s.isLive = true)

include compares live

/-- **A check of a register** ends beside a read of it as the comparison of one value. -/
theorem compared_register (located : s.locate name width = .ok place) (fits : v.Fits place.bits) :
    Compared (· = v) (place.Mismatch v) ((readRegister name width).exec s)
      ((expectRegister name v width).exec s) := by
  rw [exec_readRegister_of_located live located, exec_expectRegister_of_located located fits,
    Action.exec_bind, Action.exec_bind]
  rcases (moveRegister place false).exec s with ⟨e | _, t⟩
  · exact .failed
  · have words := compared_words compares v.word (Value.lowMask place.bits).word (place.failure v)
      (List.range place.width.slots) t
    refine words.map (fun ran => ?_) (Action.exec_map _ _ t)
    exact agree_iff located fits ((Action.length_of_exec_mapM ran).trans List.length_range)

/-- **A check of a register agrees with a read of it**, on every transport that is live and leaves expectations at
their default, for every name, width and value that fits, whatever the transport answers and wherever it
fails. -/
theorem expectRegister_agrees_with_readRegister
    (fits : ∀ place, s.locate name width = .ok place → v.Fits place.bits) :
    ReadAndCheckAgree s name v width := by
  cases located : s.locate name width with
  | error e =>
    have read := exec_readRegister_of_unknown located
    have check := exec_expectRegister_of_unknown v located
    exact
      { ok_iff := fun t => by simp [read, check]
        unknown := fun e' unknown => by
          obtain rfl := Except.error.inj (located.symm.trans unknown)
          exact ⟨read, check⟩
        copy := fun place e' t found => by
          rw [located] at found
          cases found
        other := fun u answered => by
          rw [read] at answered
          cases answered }
  | ok place =>
    have compared := compared_register compares live located (fits place located)
    exact
      { ok_iff := compared.ok_iff
        unknown := fun e unknown => by
          rw [located] at unknown
          cases unknown
        copy := fun place' e t found failed => by
          obtain rfl := Except.ok.inj (located.symm.trans found)
          rw [exec_readRegister_of_located live located,
            exec_expectRegister_of_located located (fits place located), Action.exec_bind_error failed,
            Action.exec_bind_error failed]
          exact ⟨rfl, rfl⟩
        other := fun u answered distinct => by
          obtain ⟨e, ended, slot, mem, word, -, raised⟩ := compared.own_of_other answered distinct
          exact ⟨place, located, slot, List.mem_range.1 mem, word, raised ▸ ended⟩ }

end Default

/-- A register that is narrower than the access, with anything at all in the words that do not count. -/
theorem expectRegister_agrees_with_readRegister_on_narrow :
    let b : ScriptedBus :=
      { reads := [(.data 0, [.value 0x13]), (.data 1, [.value 0xdeadbeef]), (.data 3, [.value 1])] }
    let s : Session ScriptedBus := .fresh b {} { clock := .steady 1 (by decide) }
    (Transport.expect : BusAddress → Word → Word → Action DebugError ScriptedBus Check) =
        Bus.readAndCompare ∧ s.isLive = true ∧
      (∀ place, s.locate "INSTRM" (some .w128) = .ok place → Value.Fits place.bits (0x13 : Value)) ∧
      ReadAndCheckAgree s "INSTRM" 0x13 (some .w128) := by
  intro b s
  have probe : Catalog.standard.resolve "INSTRM" = .ok ⟨"INSTRM", 0xc002, some 32⟩ :=
    Catalog.resolve_of_canonical (by decide +kernel)
  have fits : ∀ place, s.locate "INSTRM" (some .w128) = .ok place → Value.Fits place.bits (0x13 : Value) := by
    intro place located
    obtain ⟨found, width, bits⟩ := locate_eq_ok located
    rw [bits, width, Except.ok.inj (found.symm.trans probe)]
    decide
  exact ⟨rfl, rfl, fits, expectRegister_agrees_with_readRegister rfl rfl fits⟩

end HartDebug.Session
