import HartDebug.Text.Hex
import HartDebug.Text.Numeral
import Mathlib.Algebra.Group.Nat.Defs

/-!
# Digits read back

Numbers are written in decimal and in hexadecimal, in either case and with leading zeros, and read again
by two readers: one without a limit, which is the yardstick, and `Numeral.readDigits`, which stops at a
limit.

* `Numeral.valueFrom?` — the number that digits make up after those read before, with no limit;
* `Numeral.readDigits_of_valueFrom?` — below its limit `readDigits` agrees with it;
* `Numeral.valueFrom?_digits`, `Numeral.valueFrom?_toDigits` — written digits read back as their number;
* `Hex.readNatural_digits` — **a number is read as it was written**.
-/

namespace HartDebug

namespace Numeral

/-! ### A reader without a limit -/

/-- The number that digits make up after those making up `sofar`. -/
def valueFrom? (base : Nat) : Nat → List Char → Option Nat
  | sofar, [] => some sofar
  | sofar, c :: rest =>
    match digitIn base c with
    | none => none
    | some d => valueFrom? base (sofar * base + d) rest

/-- The number that a nonempty text of digits stands for. -/
def natural? (base : Nat) (text : List Char) : Option Nat :=
  if text.isEmpty then none else valueFrom? base 0 text

theorem valueFrom?_append (base sofar : Nat) (text rest : List Char) :
    valueFrom? base sofar (text ++ rest) =
      (valueFrom? base sofar text).bind fun n => valueFrom? base n rest := by
  induction text generalizing sofar with
  | nil => rfl
  | cons c text ih =>
    rw [List.cons_append, valueFrom?, valueFrom?]
    cases digitIn base c with
    | none => rfl
    | some d => exact ih (sofar * base + d)

theorem natural?_eq_valueFrom? {base : Nat} {text : List Char} (h : text ≠ []) :
    natural? base text = valueFrom? base 0 text := by
  rw [natural?, if_neg (by simpa using h)]

/-- Digits never lower a number. -/
theorem le_of_valueFrom? {base : Nat} (hbase : 0 < base) {sofar n : Nat} {text : List Char}
    (h : valueFrom? base sofar text = some n) : sofar ≤ n := by
  induction text generalizing sofar with
  | nil =>
    rw [valueFrom?, Option.some.injEq] at h
    exact Nat.le_of_eq h
  | cons c text ih =>
    rw [valueFrom?] at h
    cases hd : digitIn base c with
    | none => simp [hd] at h
    | some d =>
      rw [hd] at h
      have grown := ih h
      have scaled := Nat.le_mul_of_pos_right sofar hbase
      omega

/-- **The reader with a limit agrees with the one without**, as long as the number stays below it. -/
theorem readDigits_of_valueFrom? {base limit : Nat} (hbase : 0 < base) {sofar n : Nat}
    {text : List Char} (h : valueFrom? base sofar text = some n) (hn : n < limit) :
    readDigits base limit sofar text = .ok n := by
  induction text generalizing sofar with
  | nil =>
    rw [valueFrom?, Option.some.injEq] at h
    rw [readDigits, h]
  | cons c text ih =>
    rw [valueFrom?] at h
    rw [readDigits]
    cases hd : digitIn base c with
    | none => simp [hd] at h
    | some d =>
      rw [hd] at h
      have below := le_of_valueFrom? hbase h
      simp only
      rw [if_pos (by omega)]
      exact ih h

/-! ### Digits -/

theorem digitIn_hexDigit : ∀ d < 16, digitIn 16 (Hex.digit d) = some d := by decide

theorem digitIn_upperHexDigit : ∀ d < 16, digitIn 16 (Hex.digit d).toUpper = some d := by decide

theorem digitIn_digitChar : ∀ d < 10, digitIn 10 (Nat.digitChar d) = some d := by decide

/-- The digits of a number, each written as `f` writes it. -/
theorem valueFrom?_digits (f : Char → Char) (hf : ∀ d < 16, digitIn 16 (f (Hex.digit d)) = some d)
    (sofar n : Nat) :
    valueFrom? 16 sofar ((Hex.digits n).map f) =
      some (sofar * 16 ^ (Hex.digits n).length + n) := by
  induction n using Nat.strongRecOn generalizing sofar with
  | ind n ih =>
    rw [Hex.digits]
    split
    · next small =>
      simp [valueFrom?, hf n small]
    · next large =>
      have last : digitIn 16 (f (Hex.digit (n % 16))) = some (n % 16) := hf _ (Nat.mod_lt _ (by omega))
      rw [List.map_append, valueFrom?_append, ih (n / 16) (by omega)]
      simp only [List.map_cons, List.map_nil, Option.bind_some, valueFrom?, last, List.length_append,
        List.length_cons, List.length_nil, Nat.pow_succ, Option.some.injEq]
      have split := Nat.div_add_mod n 16
      rw [Nat.add_mul, Nat.mul_assoc]
      omega

/-- Leading zeros do not change a number. -/
theorem valueFrom?_paddedDigits (f : Char → Char)
    (hf : ∀ d < 16, digitIn 16 (f (Hex.digit d)) = some d) (count n : Nat) :
    valueFrom? 16 0 ((Hex.paddedDigits count n).map f) = some n := by
  have zero : digitIn 16 (f '0') = some 0 := hf 0 (by decide)
  have zeros : ∀ k : Nat, valueFrom? 16 0 ((List.replicate k '0').map f) = some 0 := by
    intro k
    induction k with
    | zero => rfl
    | succ k ih => simpa [List.replicate_succ, valueFrom?, zero] using ih
  rw [Hex.paddedDigits, List.map_append, valueFrom?_append, zeros, Option.bind_some,
    valueFrom?_digits f hf, Nat.zero_mul, Nat.zero_add]

theorem valueFrom?_toDigits (sofar n : Nat) :
    valueFrom? 10 sofar (Nat.toDigits 10 n) =
      some (sofar * 10 ^ (Nat.toDigits 10 n).length + n) := by
  induction n using Nat.strongRecOn generalizing sofar with
  | ind n ih =>
    by_cases small : n < 10
    · rw [Nat.toDigits_of_lt_base small]
      simp [valueFrom?, digitIn_digitChar n small]
    · have last : digitIn 10 (Nat.digitChar (n % 10)) = some (n % 10) :=
        digitIn_digitChar _ (Nat.mod_lt _ (by omega))
      rw [Nat.toDigits_of_base_le (by omega) (by omega), valueFrom?_append, ih (n / 10) (by omega)]
      simp only [Option.bind_some, valueFrom?, last, List.length_append, List.length_cons,
        List.length_nil, Nat.pow_succ, Option.some.injEq]
      have split := Nat.div_add_mod n 10
      rw [Nat.add_mul, Nat.mul_assoc]
      omega

theorem toDigits_ne_nil (base n : Nat) : Nat.toDigits base n ≠ [] := by
  have := Nat.length_toDigits_pos (b := base) (n := n)
  exact List.ne_nil_of_length_pos this

/-- **A decimal number reads back.** -/
theorem natural?_toDigits (n : Nat) : natural? 10 (Nat.toDigits 10 n) = some n := by
  rw [natural?_eq_valueFrom? (toDigits_ne_nil 10 n), valueFrom?_toDigits, Nat.zero_mul, Nat.zero_add]

/-! ### What the digits of a number are not -/

/-- A text that reads as a number holds digits only. -/
theorem isSome_digitIn_of_valueFrom? {base sofar n : Nat} {text : List Char}
    (h : valueFrom? base sofar text = some n) {c : Char} (hc : c ∈ text) :
    (digitIn base c).isSome := by
  induction text generalizing sofar with
  | nil => cases hc
  | cons first rest ih =>
    rw [valueFrom?] at h
    cases hd : digitIn base first with
    | none => simp [hd] at h
    | some d =>
      rw [hd] at h
      rcases List.mem_cons.1 hc with rfl | hc
      · rw [hd]; rfl
      · exact ih h hc

/-- A digit is a plain character above the blanks and signs. -/
theorem toNat_of_isSome_digitIn {base : Nat} {c : Char} (h : (digitIn base c).isSome) :
    0x30 ≤ c.toNat ∧ c.toNat < 0x7b := by
  have digit : (digitValue c).isSome := by
    rw [digitIn] at h
    cases value : digitValue c with
    | none => simp [value] at h
    | some d => rfl
  rw [digitValue] at digit
  split at digit
  · omega
  · split at digit
    · omega
    · split at digit
      · omega
      · cases digit

/-- **A numeral of digits is read**, as long as its number stays below the limit. -/
theorem readNatural_of_valueFrom? {base limit n : Nat} (hbase : 0 < base) {text : List Char}
    (some_text : text ≠ []) (h : valueFrom? base 0 text = some n) (hn : n < limit) :
    readNatural base limit text = .ok n := by
  have digits := readDigits_of_valueFrom? hbase h hn
  unfold readNatural
  split
  · exact absurd rfl some_text
  · have sign := toNat_of_isSome_digitIn (isSome_digitIn_of_valueFrom? h List.mem_cons_self)
    exact absurd sign.1 (by decide)
  · have sign := toNat_of_isSome_digitIn (isSome_digitIn_of_valueFrom? h List.mem_cons_self)
    exact absurd sign.1 (by decide)
  · exact digits

end Numeral

namespace Hex

theorem digits_ne_nil (n : Nat) : digits n ≠ [] := by
  rw [digits]
  split
  · exact List.cons_ne_nil _ _
  · exact List.append_ne_nil_of_right_ne_nil _ (List.cons_ne_nil _ _)

theorem mem_digits {n : Nat} {c : Char} (h : c ∈ digits n) : ∃ d < 16, c = digit d := by
  induction n using Nat.strongRecOn with
  | ind n ih =>
    rw [digits] at h
    split at h
    · next small => exact ⟨n, small, List.mem_singleton.1 h⟩
    · next large =>
      rcases List.mem_append.1 h with front | last
      · exact ih (n / 16) (by omega) front
      · exact ⟨n % 16, Nat.mod_lt _ (by omega), List.mem_singleton.1 last⟩

/-- What holds of the mark and of every digit holds of every character of a number. -/
theorem forall_mem_text {P : Char → Prop} (marks : P '0' ∧ P 'x') (each : ∀ d < 16, P (digit d)) (n : Nat) :
    ∀ c ∈ (text n).toList, P c := by
  intro c mem
  rw [text, String.toList_ofList, List.mem_cons, List.mem_cons] at mem
  rcases mem with rfl | rfl | inside
  · exact marks.1
  · exact marks.2
  · obtain ⟨d, small, rfl⟩ := mem_digits inside
    exact each d small

/-- **A number is read as it was written.** -/
theorem readNatural_digits {n limit : Nat} (h : n < limit) :
    Numeral.readNatural 16 limit (digits n) = .ok n := by
  have value := Numeral.valueFrom?_digits id Numeral.digitIn_hexDigit 0 n
  rw [List.map_id, Nat.zero_mul, Nat.zero_add] at value
  exact Numeral.readNatural_of_valueFrom? (by decide) (digits_ne_nil n) value h

end Hex

end HartDebug
