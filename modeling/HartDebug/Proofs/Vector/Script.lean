import HartDebug.Proofs.Text.Digits
import HartDebug.Text.Lines
import HartDebug.Vector.Directive
import Mathlib.Algebra.Group.Nat.Defs

/-!
# Reading vector scripts

A vector script is read line by line: each line that is no note has a test access port do one thing.  The
values of a pattern are read as numbers, so leading zeros that the writer left out make no difference.

* `PortStep` — what a line has the port do;
* `Script.read` — what a script has it do, or nothing if some line cannot be read;
* `Directive.portStep?` — what a directive stands for;
* `Script.read_script` — **a written script reads back as what its directives stand for**.
-/

namespace HartDebug

/-- Bits to shift in, and the bits to expect under a mask. -/
structure Scan where
  length : Nat
  tdi : Nat
  expected : Option (Nat × Nat)
  deriving DecidableEq, Repr

/-- What a line of a script has the test access port do. -/
inductive PortStep where
  | scanInstruction (scan : Scan)
  | scanData (scan : Scan)
  | reset
  | idle
  | runTest (cycles : Nat)
  deriving DecidableEq, Repr

/-! ## The reader -/

namespace Script

/-- The inside of a text in parentheses. -/
def parenthesized? : List Char → Option (List Char)
  | '(' :: body => if body.getLast? = some ')' then some body.dropLast else none
  | _ => none

/-- The value of a pattern. -/
def payload? (word : List Char) : Option Nat :=
  (parenthesized? word).bind (Numeral.natural? 16)

/-- The scan that the words after the name of a directive describe. -/
def scan? : List (List Char) → Option Scan
  | [length, ['T', 'D', 'I'], tdi] => do
    let length ← Numeral.natural? 10 length
    let tdi ← payload? tdi
    some ⟨length, tdi, none⟩
  | [length, ['T', 'D', 'I'], tdi, ['T', 'D', 'O'], tdo, ['M', 'A', 'S', 'K'], mask] => do
    let length ← Numeral.natural? 10 length
    let tdi ← payload? tdi
    let tdo ← payload? tdo
    let mask ← payload? mask
    some ⟨length, tdi, some (tdo, mask)⟩
  | _ => none

/-- What the words of a line have the port do. -/
def step? : List (List Char) → Option PortStep
  | ['S', 'I', 'R'] :: words => (scan? words).map .scanInstruction
  | ['S', 'D', 'R'] :: words => (scan? words).map .scanData
  | [['S', 'T', 'A', 'T', 'E'], ['R', 'E', 'S', 'E', 'T']] => some .reset
  | [['S', 'T', 'A', 'T', 'E'], ['I', 'D', 'L', 'E']] => some .idle
  | [['R', 'U', 'N', 'T', 'E', 'S', 'T'], cycles, ['T', 'C', 'K']] =>
    (Numeral.natural? 10 cycles).map .runTest
  | _ => none

/-- What a line has the port do; a line ends in a semicolon. -/
def line? (line : List Char) : Option PortStep :=
  if line.getLast? = some ';' then step? (line.dropLast.splitOn ' ') else none

/-- The line is a note for people. -/
def isNote : List Char → Bool
  | '/' :: '/' :: _ => true
  | _ => false

/-- What lines have the port do, one after another. -/
def readLines : List (List Char) → Option (List PortStep)
  | [] => some []
  | line :: rest =>
    if isNote line then readLines rest
    else do
      let step ← line? line
      let steps ← readLines rest
      some (step :: steps)

/-- What a script has the port do. -/
def read (script : String) : Option (List PortStep) :=
  readLines (Text.lines script.toList)

end Script

/-! ## What directives stand for -/

/-- The number whose octets are given, least significant first. -/
def scanValue : List Byte → Nat
  | [] => 0
  | b :: bytes => b.toNat + 256 * scanValue bytes

/-- The scan of a pattern. -/
def ScanPattern.scan (p : ScanPattern) : Scan where
  length := p.length
  tdi := scanValue p.tdi
  expected := p.expected.map fun (tdo, mask) => (scanValue tdo, scanValue mask)

namespace Directive

/-- What a directive has the port do; a note has it do nothing. -/
def portStep? : Directive → Option PortStep
  | .scanInstruction p => some (.scanInstruction p.scan)
  | .scanData p => some (.scanData p.scan)
  | .reset => some .reset
  | .idle => some .idle
  | .runTest cycles => some (.runTest cycles)
  | .note _ => none

/-- The directive takes one line of a script. -/
def IsOneLine : Directive → Prop
  | .note text => '\n' ∉ text.toList
  | _ => True

end Directive

namespace Script

/-! ## Patterns read back -/

theorem scanValue_append (low high : List Byte) :
    scanValue (low ++ high) = scanValue low + 256 ^ low.length * scanValue high := by
  induction low with
  | nil => simp [scanValue]
  | cons b low ih =>
    simp only [List.cons_append, scanValue, ih, List.length_cons, Nat.pow_succ]
    rw [Nat.mul_add, Nat.mul_comm (256 ^ low.length) 256, Nat.mul_assoc, Nat.add_assoc]

theorem paddedDigits_two {n : Nat} (h : n < 256) :
    Hex.paddedDigits 2 n = [Hex.digit (n / 16), Hex.digit (n % 16)] := by
  rw [Hex.paddedDigits, Hex.digits]
  split
  · next small =>
    rw [Nat.div_eq_of_lt small, Nat.mod_eq_of_lt small]
    rfl
  · rw [Hex.digits, if_pos (by omega)]
    rfl

/-- An octet as a pair of digits reads back. -/
theorem valueFrom?_pair (sofar : Nat) (b : Byte) :
    Numeral.valueFrom? 16 sofar (Hex.pair b).toList = some (sofar * 256 + b.toNat) := by
  have small : b.toNat < 256 := b.toNat_lt
  have high := Numeral.digitIn_upperHexDigit (b.toNat / 16) (by omega)
  have low := Numeral.digitIn_upperHexDigit (b.toNat % 16) (by omega)
  rw [Hex.pair, paddedDigits_two small, String.toList_ofList]
  simp only [List.map_cons, List.map_nil, Numeral.valueFrom?, high, low, Option.some.injEq]
  omega

theorem valueFrom?_pairs (sofar : Nat) (bytes : List Byte) :
    Numeral.valueFrom? 16 sofar (String.join (bytes.map Hex.pair)).toList =
      some (sofar * 256 ^ bytes.length + scanValue bytes.reverse) := by
  rw [String.toList_join]
  induction bytes generalizing sofar with
  | nil => simp [Numeral.valueFrom?, scanValue]
  | cons b bytes ih =>
    rw [List.map_cons, List.flatMap_cons, Numeral.valueFrom?_append, valueFrom?_pair, Option.bind_some,
      ih]
    simp only [List.length_cons, List.reverse_cons, scanValue_append, List.length_reverse, scanValue,
      Nat.pow_succ, Option.some.injEq, Nat.mul_zero, Nat.add_zero]
    rw [Nat.add_mul, Nat.mul_assoc, Nat.mul_comm 256, Nat.mul_comm b.toNat]
    omega

theorem scanValue_reverse_dropWhile (bytes : List Byte) :
    scanValue (bytes.dropWhile (· == 0)).reverse = scanValue bytes.reverse := by
  induction bytes with
  | nil => rfl
  | cons b bytes ih =>
    by_cases zero : b = 0
    · subst zero
      rw [List.dropWhile_cons_of_pos (by simp), ih, List.reverse_cons, scanValue_append]
      simp [scanValue]
    · rw [List.dropWhile_cons_of_neg (by simpa using zero)]

/-- **The text of a pattern's octets reads back as their value.** -/
theorem valueFrom?_scanText (bytes : List Byte) :
    Numeral.valueFrom? 16 0 (scanText bytes).toList = some (scanValue bytes) := by
  have kept : scanValue (bytes.reverse.dropWhile (· == 0)).reverse = scanValue bytes := by
    rw [scanValue_reverse_dropWhile, List.reverse_reverse]
  rw [scanText, valueFrom?_pairs]
  split
  · next none_significant =>
    rw [List.isEmpty_iff.1 none_significant] at kept
    simpa [scanValue] using kept
  · simp [kept]

theorem scanText_ne_nil (bytes : List Byte) : (scanText bytes).toList ≠ [] := by
  rw [scanText, String.toList_join]
  generalize chosen : (if (bytes.reverse.dropWhile (· == 0)).isEmpty then [0]
    else bytes.reverse.dropWhile (· == 0)) = significant
  have nonempty : significant ≠ [] := by
    rw [← chosen]
    split
    · simp
    · next h => simpa using h
  obtain ⟨b, rest, rfl⟩ := List.exists_cons_of_ne_nil nonempty
  rw [List.map_cons, List.flatMap_cons, Hex.pair, paddedDigits_two b.toNat_lt]
  simp

/-- The character ends a word of a line. -/
def EndsWord (c : Char) : Prop :=
  c = ' ' ∨ c = '\n'

theorem digitIn_endsWord {c : Char} (hc : EndsWord c) (base : Nat) : Numeral.digitIn base c = none := by
  have value : Numeral.digitValue c = none := by rcases hc with rfl | rfl <;> decide
  rw [Numeral.digitIn, value]
  rfl

theorem endsWord_notMem_of_valueFrom? {c : Char} (hc : EndsWord c) {base sofar n : Nat}
    {text : List Char} (h : Numeral.valueFrom? base sofar text = some n) : c ∉ text := by
  intro mem
  have digit := Numeral.isSome_digitIn_of_valueFrom? h mem
  rw [digitIn_endsWord hc] at digit
  cases digit

/-- The octets of a pattern as a word of a line. -/
def payloadWord (bytes : List Byte) : List Char :=
  '(' :: (scanText bytes).toList ++ [')']

theorem payload?_payloadWord (bytes : List Byte) :
    payload? (payloadWord bytes) = some (scanValue bytes) := by
  rw [payload?, payloadWord, List.cons_append, parenthesized?]
  simp [Numeral.natural?_eq_valueFrom? (scanText_ne_nil bytes), valueFrom?_scanText]

theorem endsWord_notMem_payloadWord {c : Char} (hc : EndsWord c) (bytes : List Byte) :
    c ∉ payloadWord bytes := by
  have digits := endsWord_notMem_of_valueFrom? hc (valueFrom?_scanText bytes)
  rcases hc with rfl | rfl <;> simp [payloadWord, digits]

/-! ## Directives read back -/

/-- The words of a pattern. -/
def patternWords (p : ScanPattern) : List (List Char) :=
  match p.expected with
  | none => [Nat.toDigits 10 p.length, ['T', 'D', 'I'], payloadWord p.tdi]
  | some (tdo, mask) =>
    [Nat.toDigits 10 p.length, ['T', 'D', 'I'], payloadWord p.tdi, ['T', 'D', 'O'], payloadWord tdo,
      ['M', 'A', 'S', 'K'], payloadWord mask]

theorem scan?_patternWords (p : ScanPattern) : scan? (patternWords p) = some p.scan := by
  obtain ⟨length, tdi, expected⟩ := p
  cases expected with
  | none =>
    simp only [patternWords, scan?, Numeral.natural?_toDigits, payload?_payloadWord]
    rfl
  | some bits =>
    simp only [patternWords, scan?, Numeral.natural?_toDigits, payload?_payloadWord]
    rfl

/-- The words of the line of a directive, without its semicolon. -/
def words : Directive → List (List Char)
  | .scanInstruction p => ['S', 'I', 'R'] :: patternWords p
  | .scanData p => ['S', 'D', 'R'] :: patternWords p
  | .reset => [['S', 'T', 'A', 'T', 'E'], ['R', 'E', 'S', 'E', 'T']]
  | .idle => [['S', 'T', 'A', 'T', 'E'], ['I', 'D', 'L', 'E']]
  | .runTest cycles => [['R', 'U', 'N', 'T', 'E', 'S', 'T'], Nat.toDigits 10 cycles, ['T', 'C', 'K']]
  | .note _ => []

theorem toList_patternText (p : ScanPattern) :
    p.text.toList = [' '].intercalate (patternWords p) := by
  obtain ⟨length, tdi, expected⟩ := p
  cases expected with
  | none => simp [ScanPattern.text, patternWords, payloadWord, List.intercalate, toString]
  | some bits => simp [ScanPattern.text, patternWords, payloadWord, List.intercalate, toString]

/-- The line of a directive is its words with a semicolon at the end. -/
theorem toList_text {d : Directive} {step : PortStep} (h : d.portStep? = some step) :
    d.text.toList = [' '].intercalate (words d) ++ [';'] := by
  cases d with
  | scanInstruction p =>
    have nonempty : patternWords p ≠ [] := by
      rw [patternWords]
      split <;> simp
    obtain ⟨first, rest, eq⟩ := List.exists_cons_of_ne_nil nonempty
    simp [Directive.text, words, toString, toList_patternText, eq, List.intercalate]
  | scanData p =>
    have nonempty : patternWords p ≠ [] := by
      rw [patternWords]
      split <;> simp
    obtain ⟨first, rest, eq⟩ := List.exists_cons_of_ne_nil nonempty
    simp [Directive.text, words, toString, toList_patternText, eq, List.intercalate]
  | reset => rfl
  | idle => rfl
  | runTest cycles => simp [Directive.text, words, toString, List.intercalate]
  | note text => cases h

theorem endsWord_notMem_patternWords {c : Char} (hc : EndsWord c) {p : ScanPattern}
    {word : List Char} (h : word ∈ patternWords p) : c ∉ word := by
  have length := endsWord_notMem_of_valueFrom? hc (Numeral.valueFrom?_toDigits 0 p.length)
  have names : c ∉ ['T', 'D', 'I'] ∧ c ∉ ['T', 'D', 'O'] ∧ c ∉ ['M', 'A', 'S', 'K'] := by
    rcases hc with rfl | rfl <;> decide
  rw [patternWords] at h
  split at h
  · simp only [List.mem_cons, List.not_mem_nil, or_false] at h
    rcases h with rfl | rfl | rfl
    · exact length
    · exact names.1
    · exact endsWord_notMem_payloadWord hc _
  · simp only [List.mem_cons, List.not_mem_nil, or_false] at h
    rcases h with rfl | rfl | rfl | rfl | rfl | rfl | rfl
    · exact length
    · exact names.1
    · exact endsWord_notMem_payloadWord hc _
    · exact names.2.1
    · exact endsWord_notMem_payloadWord hc _
    · exact names.2.2
    · exact endsWord_notMem_payloadWord hc _

theorem endsWord_notMem_words {c : Char} (hc : EndsWord c) {d : Directive} {word : List Char}
    (h : word ∈ words d) : c ∉ word := by
  cases d with
  | scanInstruction p =>
    rcases List.mem_cons.1 h with rfl | h
    · rcases hc with rfl | rfl <;> decide
    · exact endsWord_notMem_patternWords hc h
  | scanData p =>
    rcases List.mem_cons.1 h with rfl | h
    · rcases hc with rfl | rfl <;> decide
    · exact endsWord_notMem_patternWords hc h
  | reset => rcases hc with rfl | rfl <;> revert word <;> decide
  | idle => rcases hc with rfl | rfl <;> revert word <;> decide
  | runTest cycles =>
    simp only [words, List.mem_cons, List.not_mem_nil, or_false] at h
    rcases h with rfl | rfl | rfl
    · rcases hc with rfl | rfl <;> decide
    · exact endsWord_notMem_of_valueFrom? hc (Numeral.valueFrom?_toDigits 0 cycles)
    · rcases hc with rfl | rfl <;> decide
  | note text => cases h

/-- The words of a directive's line read back. -/
theorem step?_words {d : Directive} {step : PortStep} (h : d.portStep? = some step) :
    step? (words d) = some step := by
  cases d with
  | scanInstruction p =>
    rw [words, step?, scan?_patternWords]
    exact h
  | scanData p =>
    rw [words, step?, scan?_patternWords]
    exact h
  | reset => exact h
  | idle => exact h
  | runTest cycles =>
    rw [words, step?, Numeral.natural?_toDigits]
    exact h
  | note text => cases h

/-- **The line of a directive reads back.** -/
theorem line?_text {d : Directive} {step : PortStep} (h : d.portStep? = some step) :
    line? d.text.toList = some step := by
  have nonempty : words d ≠ [] := by
    intro none
    have read := step?_words h
    rw [none] at read
    cases read
  rw [toList_text h, line?, List.getLast?_concat, if_pos rfl, List.dropLast_concat,
    List.splitOn_intercalate ' ' (fun _ => endsWord_notMem_words (.inl rfl)) nonempty]
  exact step?_words h

/-! ## Scripts read back -/

theorem notMem_intercalate {c separator : Char} (other : c ≠ separator) {words : List (List Char)}
    (h : ∀ word ∈ words, c ∉ word) : c ∉ [separator].intercalate words := by
  induction words with
  | nil => simp
  | cons word rest ih =>
    have here := h word List.mem_cons_self
    have after := ih fun word mem => h word (List.mem_cons_of_mem _ mem)
    cases rest with
    | nil => simpa using here
    | cons next rest =>
      rw [List.intercalate_cons_cons, List.mem_append, List.mem_append]
      rintro ((mem | mem) | mem)
      · exact here mem
      · exact other (List.mem_singleton.1 mem)
      · exact after mem

theorem feed_notMem_text {d : Directive} {step : PortStep} (h : d.portStep? = some step) :
    '\n' ∉ d.text.toList := by
  rw [toList_text h, List.mem_append]
  rintro (mem | mem)
  · exact notMem_intercalate (by decide) (fun _ => endsWord_notMem_words (.inr rfl)) mem
  · revert mem
    decide

theorem isNote_text {d : Directive} {step : PortStep} (h : d.portStep? = some step) :
    isNote d.text.toList = false := by
  cases d with
  | scanInstruction p => simp [Directive.text, isNote, toString]
  | scanData p => simp [Directive.text, isNote, toString]
  | reset => rfl
  | idle => rfl
  | runTest cycles => simp [Directive.text, isNote, toString]
  | note text => cases h

/-- A line is read by itself, and what follows its line feed after it. -/
theorem linesAfter_append {line : List Char} (h : '\n' ∉ line) (begun rest : List Char) :
    Text.linesAfter begun (line ++ '\n' :: rest) =
      (Text.dropReturn (line.reverse ++ begun)).reverse :: Text.linesAfter [] rest := by
  induction line generalizing begun with
  | nil => simp [Text.linesAfter]
  | cons c line ih =>
    have other : c ≠ '\n' := fun eq => h (eq ▸ List.mem_cons_self)
    have after : '\n' ∉ line := fun mem => h (List.mem_cons_of_mem c mem)
    rw [List.cons_append, Text.linesAfter, ih after]
    · simp
    · exact other

theorem toList_script_cons (d : Directive) (rest : List Directive) :
    (Directive.script (d :: rest)).toList = d.text.toList ++ '\n' :: (Directive.script rest).toList := by
  simp [Directive.script, String.toList_join]

/-- A note stays a note when the carriage return at its end is dropped. -/
theorem isNote_dropReturn (text : List Char) :
    isNote (Text.dropReturn ('/' :: '/' :: ' ' :: text).reverse).reverse = true := by
  cases last : text.reverse with
  | nil => simp [last, Text.dropReturn, isNote]
  | cons c front =>
    have shape : ('/' :: '/' :: ' ' :: text).reverse = c :: (front ++ [' ', '/', '/']) := by
      simp [last]
    rw [shape, Text.dropReturn.eq_def]
    split
    · next rest eq =>
      obtain ⟨-, rfl⟩ := List.cons.inj eq
      simp [isNote]
    · simp [isNote]

/-- **A written script reads back as what its directives stand for.** -/
theorem read_script {directives : List Directive} (h : ∀ d ∈ directives, d.IsOneLine) :
    read (Directive.script directives) = some (directives.filterMap Directive.portStep?) := by
  rw [read, Text.lines]
  induction directives with
  | nil => rfl
  | cons d rest ih =>
    have after := ih fun d mem => h d (List.mem_cons_of_mem _ mem)
    rw [toList_script_cons]
    cases step : d.portStep? with
    | none =>
      -- Only a note has the port do nothing.
      obtain ⟨text, rfl⟩ : ∃ text, d = .note text := by
        cases d <;> first | exact ⟨_, rfl⟩ | cases step
      have shape : (Directive.note text).text.toList = '/' :: '/' :: ' ' :: text.toList := by
        simp [Directive.text]
      have one_line : '\n' ∉ (Directive.note text).text.toList := by
        have inside : '\n' ∉ text.toList := h _ List.mem_cons_self
        simp [shape, inside]
      rw [linesAfter_append one_line, List.append_nil, readLines, shape, if_pos (isNote_dropReturn _),
        after, List.filterMap_cons_none step]
    | some step' =>
      have last : d.text.toList.reverse = ';' :: ([' '].intercalate (words d)).reverse := by
        rw [toList_text step, List.reverse_append]
        rfl
      have kept : (Text.dropReturn d.text.toList.reverse).reverse = d.text.toList := by
        rw [last, Text.dropReturn]
        · rw [← last, List.reverse_reverse]
        · intro _ eq
          exact absurd (List.cons.inj eq).1 (by decide)
      rw [linesAfter_append (feed_notMem_text step), List.append_nil, kept, readLines,
        isNote_text step, if_neg (by simp), line?_text step, after, List.filterMap_cons_some step]
      rfl

end Script

end HartDebug
