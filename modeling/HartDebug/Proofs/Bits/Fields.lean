import HartDebug.Bits
import Mathlib.Algebra.Group.Nat.Defs

/-!
# Fields of a word

A field of a register is written and read on its own: a field reads as the low bits of the number last
written to it, and fields that do not overlap do not see each other.

* `BitField.getLsbD_set` — a bit of a word after a field was written;
* `BitField.get_set` — **a field reads as what was written to it**;
* `BitField.get_set_of_apart` — **a write to a field leaves every other field alone**;
* `BitField.and_mask_eq_zero`, `BitField.and_masks_eq_masks` — what a masked comparison tells of fields.
-/

namespace HartDebug.BitField

/-- Two fields have no bit in common. -/
def Apart (f g : BitField) : Prop :=
  f.low + f.width ≤ g.low ∨ g.low + g.width ≤ f.low

instance (f g : BitField) : Decidable (f.Apart g) :=
  inferInstanceAs (Decidable (_ ∨ _))

/-- The bits of a field are those of the word above the field's lowest bit. -/
theorem testBit_get (f : BitField) (w : Word) (i : Nat) :
    (f.get w).testBit i = (decide (i < f.width) && w.getLsbD (f.low + i)) := by
  rw [get, BitVec.testBit_toNat, BitVec.getLsbD_extractLsb']

theorem getLsbD_mask (f : BitField) (i : Nat) :
    f.mask.getLsbD i = (decide (i < 32) && decide (f.low ≤ i) && decide (i < f.low + f.width)) := by
  have fits := f.fits
  rw [mask, BitVec.getLsbD_shiftLeft, BitVec.getLsbD_setWidth, BitVec.getLsbD_allOnes]
  by_cases low : f.low ≤ i
  · by_cases high : i < f.low + f.width
    · have : i < 32 := by omega
      have : i - f.low < f.width := by omega
      have : i - f.low < 32 := by omega
      simp [*]
    · have : ¬ i - f.low < f.width := by omega
      simp [*]
  · simp [low]

/-- A bit of a word after a field was written: inside the field a bit of the number, outside the bit
that was there. -/
theorem getLsbD_set (f : BitField) (n : Nat) (w : Word) (i : Nat) :
    (f.set n w).getLsbD i =
      if f.low ≤ i ∧ i < f.low + f.width then n.testBit (i - f.low) else w.getLsbD i := by
  have fits := f.fits
  rw [set, BitVec.getLsbD_or, BitVec.getLsbD_and, BitVec.getLsbD_not, getLsbD_mask,
    BitVec.getLsbD_shiftLeft, BitVec.getLsbD_setWidth, BitVec.getLsbD_ofNat]
  split
  · next inside =>
    obtain ⟨low, high⟩ := inside
    have : i < 32 := by omega
    have : i - f.low < f.width := by omega
    have : i - f.low < 32 := by omega
    have : ¬ i < f.low := by omega
    simp [*]
  · next outside =>
    by_cases bound : i < 32
    · by_cases low : f.low ≤ i
      · have : ¬ i < f.low + f.width := fun high => outside ⟨low, high⟩
        have : ¬ i - f.low < f.width := by omega
        simp [*]
      · have : i < f.low := by omega
        simp [*]
    · simp [bound, BitVec.getLsbD_of_ge w i (by omega)]

/-- **A field reads as what was written to it**, as far as the field is wide. -/
theorem get_set (f : BitField) (n : Nat) (w : Word) : f.get (f.set n w) = n % 2 ^ f.width := by
  apply Nat.eq_of_testBit_eq
  intro i
  rw [testBit_get, getLsbD_set, Nat.testBit_mod_two_pow]
  by_cases inside : i < f.width
  · rw [if_pos ⟨by omega, by omega⟩, show f.low + i - f.low = i by omega]
  · simp [inside]

/-- **A write to a field leaves every other field alone.** -/
theorem get_set_of_apart {f g : BitField} (h : f.Apart g) (n : Nat) (w : Word) :
    f.get (g.set n w) = f.get w := by
  apply Nat.eq_of_testBit_eq
  intro i
  rw [testBit_get, testBit_get, getLsbD_set]
  by_cases inside : i < f.width
  · rw [if_neg]
    rcases h with h | h <;> omega
  · simp [inside]

theorem isSet_setFlag (f : BitField) (on : Bool) (w : Word) : f.isSet (f.setFlag on w) = on := by
  have wide : 1 < 2 ^ f.width := Nat.one_lt_two_pow (by have := f.width_pos; omega)
  rw [isSet, setFlag, get_set]
  cases on
  · simp
  · simp [Nat.mod_eq_of_lt wide]

theorem isSet_set_of_apart {f g : BitField} (h : f.Apart g) (n : Nat) (w : Word) :
    f.isSet (g.set n w) = f.isSet w := by
  rw [isSet, isSet, get_set_of_apart h]

theorem isSet_setFlag_of_apart {f g : BitField} (h : f.Apart g) (on : Bool) (w : Word) :
    f.isSet (g.setFlag on w) = f.isSet w := by
  rw [setFlag, isSet_set_of_apart h]

theorem get_setFlag_of_apart {f g : BitField} (h : f.Apart g) (on : Bool) (w : Word) :
    f.get (g.setFlag on w) = f.get w := by
  rw [setFlag, get_set_of_apart h]

/-- No bit of the word counts under the mask of a field that holds zero. -/
theorem and_mask_eq_zero (f : BitField) (w : Word) : w &&& f.mask = 0 ↔ f.get w = 0 := by
  have fits := f.fits
  constructor
  · intro clear
    apply Nat.eq_of_testBit_eq
    intro i
    rw [testBit_get, Nat.zero_testBit]
    by_cases inside : i < f.width
    · have bit := congrArg (·.getLsbD (f.low + i)) clear
      simp only [BitVec.getLsbD_and, getLsbD_mask] at bit
      simpa [inside, show f.low + i < 32 by omega] using bit
    · simp [inside]
  · intro zero
    apply BitVec.eq_of_getLsbD_eq
    intro i hi
    rw [BitVec.getLsbD_and, getLsbD_mask]
    by_cases inside : f.low ≤ i ∧ i < f.low + f.width
    · have bit := testBit_get f w (i - f.low)
      rw [zero, Nat.zero_testBit, show f.low + (i - f.low) = i by omega] at bit
      have clear : w.getLsbD i = false := by simpa [show i - f.low < f.width by omega] using bit.symm
      simp [clear]
    · by_cases low : f.low ≤ i
      · simp [show ¬ i < f.low + f.width from fun high => inside ⟨low, high⟩]
      · simp [low]

/-- A flag is its bit. -/
theorem isSet_of_isFlag {f : BitField} (h : f.IsFlag) (w : Word) : f.isSet w = w.getLsbD f.low := by
  have bit := testBit_get f w 0
  have small : f.get w < 2 := by
    have := BitVec.isLt (w.extractLsb' f.low f.width)
    rw [show f.width = 1 from h] at this
    simpa [get, show f.width = 1 from h] using this
  rw [Nat.add_zero, show f.width = 1 from h, Nat.testBit_zero] at bit
  rw [isSet]
  rcases (by omega : f.get w = 0 ∨ f.get w = 1) with value | value
  · simpa [value] using bit
  · simpa [value] using bit

/-- A word has all bits of another one if it has each of them. -/
theorem and_eq_right_iff {w m : Word} :
    w &&& m = m ↔ ∀ i, m.getLsbD i = true → w.getLsbD i = true := by
  constructor
  · intro all i bit
    have both := congrArg (·.getLsbD i) all
    simpa [bit] using both
  · intro each
    apply BitVec.eq_of_getLsbD_eq
    intro i _
    rw [BitVec.getLsbD_and]
    cases bit : m.getLsbD i with
    | true => simp [each i bit]
    | false => simp

/-- The mask of a flag finds it set. -/
theorem and_mask_eq_mask {f : BitField} (h : f.IsFlag) (w : Word) :
    w &&& f.mask = f.mask ↔ f.isSet w = true := by
  have fits := f.fits
  have wide : f.width = 1 := h
  rw [and_eq_right_iff, isSet_of_isFlag h]
  constructor
  · intro each
    exact each f.low (by simp [getLsbD_mask, wide]; omega)
  · intro set i bit
    simp only [getLsbD_mask, Bool.and_eq_true, decide_eq_true_eq] at bit
    obtain rfl : i = f.low := by omega
    exact set

/-- The masks of two flags find both of them set. -/
theorem and_masks_eq_masks {f g : BitField} (hf : f.IsFlag) (hg : g.IsFlag) (w : Word) :
    w &&& (f.mask ||| g.mask) = f.mask ||| g.mask ↔ f.isSet w = true ∧ g.isSet w = true := by
  rw [← and_mask_eq_mask hf, ← and_mask_eq_mask hg, and_eq_right_iff, and_eq_right_iff, and_eq_right_iff]
  simp only [BitVec.getLsbD_or, Bool.or_eq_true]
  exact ⟨fun all => ⟨fun i bit => all i (.inl bit), fun i bit => all i (.inr bit)⟩,
    fun both i bit => bit.elim (both.1 i) (both.2 i)⟩

end HartDebug.BitField
