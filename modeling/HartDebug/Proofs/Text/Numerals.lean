import HartDebug.Proofs.Text.Digits
import Mathlib.Data.List.TakeWhile

/-!
# Which texts are numerals

A numeral is read digit by digit, and the first fault that is met refuses it.  What becomes of it can be told
from the text as a whole: from the digits that it begins with, and from whether anything comes behind them.

* `Numeral.unsigned` — a text without its plus sign;
* `Numeral.valueFrom?_eq_some_iff` — a text of digits has the value of the digits that it begins with;
* `Numeral.exists_natural?` — digits are a number, and their count tells how large it can be;
* `Numeral.readNatural_eq_ok_iff` — **which texts are accepted, and as which number**;
* `Numeral.fault_of_readNatural` — **what the others are refused for**.
-/

namespace HartDebug.Numeral

/-- The character is a digit of the base. -/
def isDigitIn (base : Nat) (c : Char) : Bool :=
  (digitIn base c).isSome

/-- A text without the plus sign that it may begin with. -/
def unsigned : List Char → List Char
  | '+' :: rest => rest
  | text => text

/-- The digits that a text begins with, all of them. -/
def leadingDigits (base : Nat) (text : List Char) : List Char :=
  text.takeWhile (isDigitIn base)

variable {base limit sofar n : Nat} {text : List Char}

theorem leadingDigits_cons_of_digit {c : Char} {d : Nat} (digit : digitIn base c = some d)
    (rest : List Char) : leadingDigits base (c :: rest) = c :: leadingDigits base rest :=
  List.takeWhile_cons_of_pos (by rw [isDigitIn, digit]; rfl)

theorem leadingDigits_cons_of_none {c : Char} (other : digitIn base c = none) (rest : List Char) :
    leadingDigits base (c :: rest) = [] :=
  List.takeWhile_cons_of_neg (by rw [isDigitIn, other]; exact Bool.false_ne_true)

/-! ### The digits that a text begins with -/

/-- The digits that a text begins with make up a number, of which there is one only. -/
theorem exists_leading (base sofar : Nat) (text : List Char) :
    ∃ n, valueFrom? base sofar (leadingDigits base text) = some n := by
  induction text generalizing sofar with
  | nil => exact ⟨sofar, rfl⟩
  | cons c rest ih =>
    cases digit : digitIn base c with
    | none => exact ⟨sofar, by rw [leadingDigits_cons_of_none digit]; rfl⟩
    | some d =>
      obtain ⟨n, value⟩ := ih (sofar * base + d)
      refine ⟨n, ?_⟩
      rw [leadingDigits_cons_of_digit digit, valueFrom?, digit]
      exact value

theorem lt_of_digitIn {c : Char} {d : Nat} (digit : digitIn base c = some d) : d < base := by
  rw [digitIn, Option.filter_eq_some_iff] at digit
  exact of_decide_eq_true digit.2

/-- The digits of a number tell how large it can be. -/
theorem lt_of_valueFrom? (value : valueFrom? base sofar text = some n) :
    n < (sofar + 1) * base ^ text.length := by
  induction text generalizing sofar with
  | nil =>
    obtain rfl : sofar = n := Option.some.inj value
    rw [List.length_nil, Nat.pow_zero, Nat.mul_one]
    exact Nat.lt_succ_self sofar
  | cons c text ih =>
    rw [valueFrom?] at value
    cases digit : digitIn base c with
    | none =>
      rw [digit] at value
      cases value
    | some d =>
      rw [digit] at value
      have small := lt_of_digitIn digit
      have grown : sofar * base + d + 1 ≤ (sofar + 1) * base := by
        rw [Nat.add_mul, Nat.one_mul]
        omega
      calc n < (sofar * base + d + 1) * base ^ text.length := ih value
        _ ≤ (sofar + 1) * base * base ^ text.length := Nat.mul_le_mul_right _ grown
        _ = (sofar + 1) * base ^ (c :: text).length := by
          rw [List.length_cons, Nat.pow_succ, Nat.mul_assoc, Nat.mul_comm base]

/-- Digits, one at least, are a number, which is as small as their count says. -/
theorem exists_natural? (some_text : text ≠ []) (each : ∀ c ∈ text, isDigitIn base c = true) :
    ∃ n, natural? base text = some n ∧ n < base ^ text.length := by
  obtain ⟨n, value⟩ := exists_leading base 0 text
  rw [leadingDigits, List.takeWhile_eq_self_iff.2 each] at value
  have small := lt_of_valueFrom? value
  rw [Nat.zero_add, Nat.one_mul] at small
  exact ⟨n, (natural?_eq_valueFrom? some_text).trans value, small⟩

/-- A text of digits, and no other, has the value of the digits that it begins with. -/
theorem valueFrom?_eq_some_iff :
    valueFrom? base sofar text = some n ↔
      leadingDigits base text = text ∧ valueFrom? base sofar (leadingDigits base text) = some n := by
  constructor
  · intro value
    have digits : leadingDigits base text = text :=
      List.takeWhile_eq_self_iff.2 fun c inside => isSome_digitIn_of_valueFrom? value inside
    exact ⟨digits, digits.symm ▸ value⟩
  · rintro ⟨digits, value⟩
    rwa [digits] at value

/-- **A numeral is refused as too large as soon as the digits that it begins with are**, and for a digit only
if they are not.  The induction is on the text, of which the digits before `text` make up `sofar`. -/
theorem readDigits_eq (hbase : 0 < base) (small : sofar < limit)
    (leading : valueFrom? base sofar (leadingDigits base text) = some n) :
    readDigits base limit sofar text =
      if limit ≤ n then .error .tooLarge
      else if leadingDigits base text = text then .ok n
      else .error .invalidDigit := by
  induction text generalizing sofar with
  | nil =>
    obtain rfl : sofar = n := Option.some.inj leading
    rw [if_neg (Nat.not_le_of_lt small), readDigits]
    rfl
  | cons c rest ih =>
    cases digit : digitIn base c with
    | none =>
      rw [leadingDigits_cons_of_none digit] at leading ⊢
      obtain rfl : sofar = n := Option.some.inj leading
      rw [if_neg (Nat.not_le_of_lt small), if_neg (List.cons_ne_nil c rest).symm, readDigits, digit]
    | some d =>
      rw [leadingDigits_cons_of_digit digit] at leading ⊢
      rw [valueFrom?, digit] at leading
      rw [readDigits, digit]
      dsimp only
      by_cases passed : sofar * base + d < limit
      · rw [if_pos passed, ih passed leading]
        simp only [List.cons.injEq, true_and]
      · -- Digits never lower a number, so it stays past the limit.
        have grown := le_of_valueFrom? hbase leading
        rw [if_neg passed, if_pos (by omega)]

/-! ### Accepted and refused -/

/-- A numeral with something behind its sign is read from there. -/
theorem readNatural_eq_readDigits (some_text : unsigned text ≠ []) :
    readNatural base limit text = readDigits base limit 0 (unsigned text) := by
  unfold readNatural
  split
  · exact absurd rfl some_text
  · exact absurd rfl some_text
  · rfl
  · next other =>
    have same : unsigned text = text := by
      unfold unsigned
      split
      · exact absurd rfl (other _)
      · rfl
    rw [same]

/-- Nothing, and a sign alone, are refused without a look at a digit. -/
theorem readNatural_of_nothing (nothing : unsigned text = []) :
    readNatural base limit text = .error (if text = [] then .empty else .invalidDigit) := by
  unfold unsigned at nothing
  split at nothing
  · rw [nothing]
    rfl
  · rw [nothing]
    rfl

section

variable (hbase : 0 < base) (hlimit : 0 < limit)

include hbase hlimit

/-- **A text is read as a number if and only if it is digits of this number**, at least one of them, after at
most one plus sign, and the number is below the limit. -/
theorem readNatural_eq_ok_iff :
    readNatural base limit text = .ok n ↔ natural? base (unsigned text) = some n ∧ n < limit := by
  by_cases nothing : unsigned text = []
  · rw [readNatural_of_nothing nothing, natural?, nothing]
    constructor
    · intro accepted
      cases accepted
    · intro accepted
      cases accepted.1
  obtain ⟨m, leading⟩ := exists_leading base 0 (unsigned text)
  rw [readNatural_eq_readDigits nothing, readDigits_eq hbase hlimit leading, natural?_eq_valueFrom? nothing,
    valueFrom?_eq_some_iff, leading, Option.some.injEq]
  split
  · next passed =>
    constructor
    · intro accepted
      cases accepted
    · intro accepted
      omega
  · next below =>
    split
    · next digits =>
      rw [Except.ok.injEq]
      exact ⟨fun same => ⟨⟨digits, same⟩, by omega⟩, fun accepted => accepted.1.2⟩
    · next other =>
      constructor
      · intro accepted
        cases accepted
      · intro accepted
        exact absurd accepted.1.1 other

/-- **What a text is refused for**, if there is something behind its sign: the digits that it begins with are
too large already, or else a character is no digit. -/
theorem fault_of_readNatural (some_text : unsigned text ≠ []) {fault : Fault}
    (refused : readNatural base limit text = .error fault) :
    ∃ m, valueFrom? base 0 (leadingDigits base (unsigned text)) = some m ∧
      fault = if limit ≤ m then .tooLarge else .invalidDigit := by
  obtain ⟨m, leading⟩ := exists_leading base 0 (unsigned text)
  refine ⟨m, leading, ?_⟩
  rw [readNatural_eq_readDigits some_text, readDigits_eq hbase hlimit leading] at refused
  split at refused
  · next passed =>
    rw [if_pos passed]
    exact (Except.error.inj refused).symm
  · next below =>
    rw [if_neg below]
    split at refused
    · cases refused
    · exact (Except.error.inj refused).symm

end

end HartDebug.Numeral
