import HartDebug.Word
import Mathlib.Algebra.Group.Nat.Defs

/-!
# Values as words

A value crosses the bus as words and is put together again from them.  What comes back is the value up to
the last word that was carried, which is all of it if the value fits.

* `Value.getLsbD_ofWords` — a bit of a value is a bit of one of its words;
* `Value.ofWords_words` — **the first words of a value make up its low bits**;
* `Value.toNat_and_lowMask`, `Value.fits_iff` — masks and bounds as arithmetic;
* `Value.and_lowMask_eq_iff` — **low bits compared word by word**.
-/

namespace HartDebug.Value

theorem getLsbD_word (value : Value) (i : Nat) {j : Nat} (hj : j < 32) :
    (value.word i).getLsbD j = value.getLsbD (32 * i + j) := by
  rw [word, BitVec.getLsbD_extractLsb']
  simp [hj]

/-- A bit of a value is a bit of one of its words.  The induction is on the words: the first holds the
bits below 32, the others the bits above, moved down by 32. -/
theorem getLsbD_ofWords (ws : List Word) (h : ws.length ≤ 4) (i : Nat) :
    (ofWords ws).getLsbD i = (ws.getD (i / 32) 0).getLsbD (i % 32) := by
  induction ws generalizing i with
  | nil => simp [ofWords]
  | cons w ws ih =>
    rw [List.length_cons] at h
    rw [ofWords, BitVec.getLsbD_or, BitVec.getLsbD_setWidth, BitVec.getLsbD_shiftLeft, ih (by omega)]
    by_cases low : i < 32
    · rw [show i / 32 = 0 by omega, show i % 32 = i by omega]
      simp [low, show i < 128 by omega]
    · have above : w.getLsbD i = false := BitVec.getLsbD_of_ge w i (by omega)
      rw [show i / 32 = (i - 32) / 32 + 1 by omega, show i % 32 = (i - 32) % 32 by omega,
        List.getD_cons_succ, above]
      by_cases inside : i < 128
      · simp [low, inside]
      · rw [List.getD_eq_getElem?_getD,
          List.getElem?_eq_none (show ws.length ≤ (i - 32) / 32 by omega)]
        simp

theorem getLsbD_lowMask {bits : Nat} (h : bits ≤ 128) (i : Nat) :
    (lowMask bits).getLsbD i = decide (i < bits) := by
  rw [lowMask, BitVec.getLsbD_ushiftRight, BitVec.getLsbD_allOnes, decide_eq_decide]
  omega

/-- **The first words of a value make up its low bits.** -/
theorem ofWords_words (value : Value) {n : Nat} (h : n ≤ 4) :
    ofWords ((List.range n).map value.word) = value &&& lowMask (32 * n) := by
  apply BitVec.eq_of_getLsbD_eq
  intro i hi
  rw [getLsbD_ofWords _ (by simpa using h), BitVec.getLsbD_and, getLsbD_lowMask (by omega)]
  by_cases inside : i < 32 * n
  · have index : i / 32 < ((List.range n).map value.word).length := by
      rw [List.length_map, List.length_range]
      omega
    rw [List.getD_eq_getElem?_getD, List.getElem?_eq_getElem index, Option.getD_some,
      List.getElem_map, List.getElem_range, getLsbD_word value _ (Nat.mod_lt i (by omega)),
      Nat.div_add_mod]
    simp [inside]
  · rw [List.getD_eq_getElem?_getD,
      List.getElem?_eq_none (by rw [List.length_map, List.length_range]; omega)]
    simp [inside]

theorem toNat_lowMask {bits : Nat} (h : bits ≤ 128) : (lowMask bits).toNat = 2 ^ bits - 1 := by
  apply Nat.eq_of_testBit_eq
  intro i
  rw [BitVec.testBit_toNat, getLsbD_lowMask h, Nat.testBit_two_pow_sub_one]

/-- A mask of low bits takes the remainder. -/
theorem toNat_and_lowMask (value : Value) {bits : Nat} (h : bits ≤ 128) :
    (value &&& lowMask bits).toNat = value.toNat % 2 ^ bits := by
  rw [BitVec.toNat_and, toNat_lowMask h, Nat.and_two_pow_sub_one_eq_mod]

/-- Of two masks the narrower one decides. -/
theorem and_lowMask_and_lowMask (value : Value) {bits bits' : Nat} (h : bits ≤ bits') (most : bits' ≤ 128) :
    value &&& lowMask bits' &&& lowMask bits = value &&& lowMask bits := by
  apply BitVec.eq_of_getLsbD_eq
  intro i hi
  rw [BitVec.getLsbD_and, BitVec.getLsbD_and, BitVec.getLsbD_and, getLsbD_lowMask most,
    getLsbD_lowMask (by omega)]
  by_cases inside : i < bits
  · simp [inside, show i < bits' by omega]
  · simp [inside]

/-- A value fits if it is below the power of two. -/
theorem fits_iff (value : Value) (bits : Nat) : value.Fits bits ↔ value.toNat < 2 ^ bits := by
  rw [Fits, ← BitVec.toNat_inj, BitVec.toNat_ushiftRight, Nat.shiftRight_eq_div_pow]
  show value.toNat / 2 ^ bits = 0 ↔ _
  rw [Nat.div_eq_zero_iff_lt (Nat.two_pow_pos bits)]

/-- A value that fits has room in more bits. -/
theorem Fits.mono {value : Value} {bits bits' : Nat} (h : value.Fits bits) (wide : bits ≤ bits') :
    value.Fits bits' :=
  (fits_iff value bits').2 (Nat.lt_of_lt_of_le ((fits_iff value bits).1 h) (Nat.pow_le_pow_right (by decide) wide))

/-- A value that fits loses nothing under a mask that is as wide. -/
theorem and_lowMask_of_fits {value : Value} {bits bits' : Nat} (h : value.Fits bits) (wide : bits ≤ bits')
    (most : bits' ≤ 128) : value &&& lowMask bits' = value := by
  apply BitVec.eq_of_toNat_eq
  have below := (fits_iff value bits).1 h
  have room : 2 ^ bits ≤ 2 ^ bits' := Nat.pow_le_pow_right (by omega) wide
  rw [toNat_and_lowMask value most]
  exact Nat.mod_eq_of_lt (by omega)

/-- What a mask leaves fits. -/
theorem fits_and_lowMask (value : Value) {bits bits' : Nat} (wide : bits ≤ bits') (most : bits ≤ 128) :
    (value &&& lowMask bits).Fits bits' := by
  have room : 2 ^ bits ≤ 2 ^ bits' := Nat.pow_le_pow_right (by decide) wide
  have below := Nat.mod_lt value.toNat (Nat.two_pow_pos bits)
  rw [fits_iff, toNat_and_lowMask value most]
  omega

/-! ### Word by word -/

theorem word_and (u v : Value) (i : Nat) : (u &&& v).word i = u.word i &&& v.word i :=
  BitVec.extractLsb'_and

/-- The words of a value are those that it was put together from. -/
theorem word_ofWords {ws : List Word} (h : ws.length ≤ 4) (i : Nat) : (ofWords ws).word i = ws.getD i 0 := by
  apply BitVec.eq_of_getLsbD_eq
  intro j hj
  rw [getLsbD_word _ i hj, getLsbD_ofWords ws h, show (32 * i + j) / 32 = i by omega,
    show (32 * i + j) % 32 = j by omega]

/-- Values that fit some words are equal if these words are. -/
theorem eq_of_words {u v : Value} {n : Nat} (most : n ≤ 4) (hu : u.Fits (32 * n)) (hv : v.Fits (32 * n))
    (same : ∀ i < n, u.word i = v.word i) : u = v :=
  calc u = u &&& lowMask (32 * n) := (and_lowMask_of_fits hu (Nat.le_refl _) (by omega)).symm
    _ = ofWords ((List.range n).map u.word) := (ofWords_words u most).symm
    _ = ofWords ((List.range n).map v.word) :=
      congrArg ofWords (List.map_congr_left fun i mem => same i (List.mem_range.1 mem))
    _ = v &&& lowMask (32 * n) := ofWords_words v most
    _ = v := and_lowMask_of_fits hv (Nat.le_refl _) (by omega)

/-- **Values agree in their low bits** exactly if their words agree, each under its part of the mask. -/
theorem and_lowMask_eq_iff (u v : Value) {bits n : Nat} (h : bits ≤ 32 * n) (most : n ≤ 4) :
    u &&& lowMask bits = v &&& lowMask bits ↔
      ∀ i < n, u.word i &&& (lowMask bits).word i = v.word i &&& (lowMask bits).word i := by
  simp only [← word_and]
  refine ⟨fun same i _ => congrArg (·.word i) same, eq_of_words most ?_ ?_⟩
  · exact fits_and_lowMask u h (by omega)
  · exact fits_and_lowMask v h (by omega)

end HartDebug.Value
