import HartDebug.Proofs.Bits.Values
import HartDebug.Proofs.Register.Lookup
import HartDebug.Session.HartRegister

/-!
# Where register accesses go

An access names a register and may choose a width.  Where it goes is settled before anything is done: the
register must be known, and a value that is carried must fit the bits that count.

* `Session.locate_eq_ok`, `Session.exists_locate`, `Session.bits_le_of_locate` — **what a place is made of**;
* `Session.exec_locateFor`, `Session.locateFor_eq_ok` — a place for a value, exactly if the value fits;
* `Session.placeRefusal?` — why a value has no place;
* `Session.exec_readRegister_of_located`, `Session.exec_readRegister_of_unknown` — a read, by its place;
* `Session.locate_dcsr` — the place of the register that a step writes.
-/

namespace HartDebug

/-- The number of bits of a register that an access of a width carries. -/
def Register.bitsAt (register : Register) (width : TransferWidth) : Nat :=
  (register.widthOverride.getD width.bits).min width.bits

namespace Session

variable {τ : Type} {s : Session τ} {name : String} {width : Option TransferWidth} {place : Place}

/-- A place is made of the register of the name, of the width chosen or else that of the session, and of
the narrower of the two. -/
theorem locate_eq_ok (h : s.locate name width = .ok place) :
    Catalog.standard.resolve name = .ok place.register ∧ place.width = width.getD s.width ∧
      place.bits = (place.register.widthOverride.getD place.width.bits).min place.width.bits := by
  rw [locate] at h
  cases resolved : Catalog.standard.resolve name with
  | error e =>
    rw [resolved] at h
    cases h
  | ok register =>
    rw [resolved] at h
    obtain rfl := Except.ok.inj h
    exact ⟨rfl, rfl, rfl⟩

/-- The place of a register, at every width. -/
theorem locate_of_resolve {register : Register} (resolved : Catalog.standard.resolve name = .ok register)
    (s : Session τ) (width : Option TransferWidth) :
    s.locate name width =
      .ok ⟨register, width.getD s.width, register.bitsAt (width.getD s.width)⟩ := by
  rw [locate, resolved]
  rfl

theorem exists_locate {register : Register} (resolved : Catalog.standard.resolve name = .ok register)
    (width : Option TransferWidth) : ∃ place, s.locate name width = .ok place :=
  ⟨_, locate_of_resolve resolved s width⟩

/-- A register that is as wide as the hart carries all bits of an access. -/
theorem locate_of_plain {number : RegisterNumber}
    (resolved : Catalog.standard.resolve name = .ok ⟨name, number, none⟩) (s : Session τ)
    (width : Option TransferWidth) :
    s.locate name width =
      .ok ⟨⟨name, number, none⟩, width.getD s.width, (width.getD s.width).bits⟩ := by
  rw [locate_of_resolve resolved, Register.bitsAt, Option.getD_none,
    show (width.getD s.width).bits.min (width.getD s.width).bits = (width.getD s.width).bits from
      Nat.min_self _]

theorem bits_le_of_locate (h : s.locate name width = .ok place) : place.bits ≤ place.width.bits := by
  rw [(locate_eq_ok h).2.2]
  exact Nat.min_le_right _ _

theorem bits_le_of_locate_most (h : s.locate name width = .ok place) : place.bits ≤ 128 := by
  have most := place.width.bits_le
  exact Nat.le_trans (bits_le_of_locate h) most

variable {value : Value}

theorem exec_locateFor (located : s.locate name width = .ok place) (fits : value.Fits place.bits) :
    (locateFor name value width).exec s = (.ok place, s) := by
  rw [locateFor, Action.exec_bind_ok (Action.exec_get s), located,
    Action.exec_bind_ok (Action.exec_ofExcept _ s), if_pos fits]
  rfl

/-- A place for a value is one that the value fits. -/
theorem locateFor_eq_ok {s' : Session τ} (h : (locateFor name value width).exec s = (.ok place, s')) :
    s.locate name width = .ok place ∧ value.Fits place.bits := by
  rw [locateFor, Action.exec_bind_ok (Action.exec_get s)] at h
  obtain ⟨found, s'', looked, rest⟩ := Action.exec_bind_eq_ok h
  have located : s.locate name width = .ok found := congrArg Prod.fst looked
  by_cases fits : value.Fits found.bits
  · rw [if_pos fits] at rest
    obtain rfl := Except.ok.inj (Prod.mk.inj rest).1
    exact ⟨located, fits⟩
  · rw [if_neg fits] at rest
    cases (Prod.mk.inj rest).1

/-- Why a value has no place, if it has none. -/
def placeRefusal? (s : Session τ) (name : String) (value : Value) (width : Option TransferWidth) :
    Option DebugError :=
  match s.locate name width with
  | .error e => some e
  | .ok place => if value.Fits place.bits then none else some (.valueOutOfRange value place.bits)

/-- A value without a place is refused before anything is done. -/
theorem exec_locateFor_refused {e : DebugError} (refused : s.placeRefusal? name value width = some e) :
    (locateFor name value width).exec s = (.error e, s) := by
  rw [placeRefusal?] at refused
  rw [locateFor, Action.exec_bind_ok (Action.exec_get s)]
  cases located : s.locate name width with
  | error e' =>
    rw [located] at refused
    rw [← Option.some.inj refused]
    rfl
  | ok place =>
    rw [located] at refused
    dsimp only at refused
    rw [Action.exec_bind_ok (Action.exec_ofExcept _ s)]
    split at refused
    · cases refused
    · next misfit =>
      rw [if_neg misfit, exec_failLogged, Option.some.inj refused]

/-- A value that is not refused has a place. -/
theorem exists_exec_locateFor (accepted : s.placeRefusal? name value width = none) :
    ∃ place, (locateFor name value width).exec s = (.ok place, s) := by
  rw [placeRefusal?] at accepted
  cases located : s.locate name width with
  | error e =>
    rw [located] at accepted
    cases accepted
  | ok place =>
    rw [located] at accepted
    dsimp only at accepted
    split at accepted
    · next fits => exact ⟨place, exec_locateFor located fits⟩
    · cases accepted

/-- A name without a place is no register's. -/
theorem locate_eq_error {e : DebugError} (h : s.locate name width = .error e) :
    e = .unknownRegister name := by
  rw [locate] at h
  cases resolved : Catalog.standard.resolve name with
  | ok register =>
    rw [resolved] at h
    cases h
  | error e' =>
    rw [resolved] at h
    obtain rfl := Except.error.inj h
    rw [Catalog.resolve] at resolved
    split at resolved
    · cases resolved
    · exact (Except.error.inj resolved).symm

/-! ### What a read does with its place -/

section Read

variable [Transport τ]

theorem exec_readRegister_of_unknown {e : DebugError} (unknown : s.locate name width = .error e) :
    (readRegister name width).exec s = (.error e, s) := by
  rw [readRegister, Action.exec_bind_ok (Action.exec_get s), unknown,
    Action.exec_bind_error (Action.exec_ofExcept _ s)]

/-- A read whose place is known copies the register and reads the words. -/
theorem exec_readRegister_of_located (live : s.isLive = true)
    (located : s.locate name width = .ok place) :
    (readRegister name width).exec s =
      (moveRegister place false >>= fun _ =>
        (fun words => Value.ofWords words &&& Value.lowMask place.bits) <$>
          (List.range place.width.slots).mapM fun slot => readDmi (.data slot)).exec s := by
  rw [readRegister, Action.exec_bind_ok (Action.exec_get s), located,
    Action.exec_bind_ok (Action.exec_ofExcept _ s), Action.exec_bind_ok (Action.exec_get s), if_pos live]
  refine Action.exec_bind_congr s fun _ t => ?_
  rw [Action.exec_map, Action.exec_bind]
  rcases Action.exec (List.mapM _ _) t with ⟨_ | words, u⟩ <;> rfl

end Read

/-! ### The register that a step writes -/

theorem locate_dcsr (t : Session τ) :
    t.locate "DCSR" none = .ok ⟨⟨"DCSR", Catalog.dcsrNumber, none⟩, t.width, t.width.bits⟩ :=
  locate_of_plain Catalog.resolve_dcsr t none

/-- A word fits at every width. -/
theorem fits_word (width : TransferWidth) (w : Word) : Value.Fits width.bits (w.setWidth 128) := by
  have small : w.toNat < 2 ^ 32 := w.isLt
  have room : 2 ^ 32 ≤ 2 ^ width.bits := Nat.pow_le_pow_right (by decide) (by cases width <;> decide)
  rw [Value.fits_iff, BitVec.toNat_setWidth_of_le (by decide)]
  omega

end Session

end HartDebug
