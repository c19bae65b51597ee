import HartDebug.Proofs.Text.Blanks
import HartDebug.Proofs.Text.Digits
import HartDebug.Proofs.Wire.Adapter
import HartDebug.Wire.Tcl

/-!
# What is read out of an answer

An adapter words its answers in a manner of its own.  What a session makes of them does not depend on it:
a number is read whatever stands around it, and nothing stays nothing.

* `Manner.bare` — the wording without what stands around it;
* `Manner.flat_wording`, `Manner.unwrap_replyText` — **the bare wording is what a session looks at**;
* `Manner.word_numeral`, `Manner.failed_bare` — **a number is read out of it**, and no failure.
-/

namespace HartDebug

namespace Reply

/-- A pattern is looked for at every place of a text. -/
theorem occursIn_iff {pattern text : List Char} : occursIn pattern text = true ↔ pattern <:+: text := by
  induction text with
  | nil => rw [occursIn, List.isEmpty_iff, List.infix_nil]
  | cons c text ih => rw [occursIn, Bool.or_eq_true, ih, List.isPrefixOf_iff_prefix, List.infix_cons_iff]

theorem occursIn_eq_false {pattern text : List Char} {c : Char} (inside : c ∈ pattern)
    (absent : c ∉ text) : occursIn pattern text = false := by
  rw [Bool.eq_false_iff]
  exact fun occurs => absent ((occursIn_iff.1 occurs).subset inside)

/-- Where no mark can be, none is taken away. -/
theorem unmarked_eq_self {text : List Char} (lower : 'x' ∉ text) (upper : 'X' ∉ text) :
    unmarked text = text := by
  rw [unmarked.eq_def]
  split
  · exact absurd (by simp) lower
  · exact absurd (by simp) upper
  · rfl

end Reply

/-- What stands in braces is taken out of them. -/
theorem Tcl.unwrapBraces_of_braces (body : List Char) :
    unwrapBraces (String.ofList ('\x7b' :: body ++ ['\x7d'])) = Text.trim (String.ofList body) := by
  have closing : Text.isBlank '\x7d' = false := by decide
  have trimmed : Text.trim (String.ofList ('\x7b' :: body ++ ['\x7d'])) =
      String.ofList ('\x7b' :: (body ++ ['\x7d'])) := by
    rw [Text.trim, String.toList_ofList, List.cons_append, List.dropWhile_cons_of_neg (by decide),
      ← List.cons_append, Text.dropBlanksEnd_concat closing]
  have inner : dropClosing? (body ++ ['\x7d']) = some body := by
    rw [dropClosing?, List.getLast?_concat, List.dropLast_concat]
    rfl
  simp only [unwrapBraces, trimmed, String.toList_ofList, inner]

theorem LineEnd.isBlank_text (e : LineEnd) : ∀ c ∈ e.text, Text.isBlank c = true :=
  List.all_eq_true.1 (by cases e <;> decide)

namespace Manner

variable (m : Manner)

/-! ## The characters of an answer -/

/-- A character that numbers are made of. -/
def IsNumeral (c : Char) : Prop :=
  c.isAlphanum = true ∧ c ≠ 'l'

instance (c : Char) : Decidable (IsNumeral c) :=
  inferInstanceAs (Decidable (c.isAlphanum = true ∧ c ≠ 'l'))

theorem IsNumeral.bounds {c : Char} (h : IsNumeral c) : 0x30 ≤ c.toNat ∧ c.toNat < 0x7b :=
  Utf8.toNat_of_isAlphanum h.1

theorem IsNumeral.isBlank {c : Char} (h : IsNumeral c) : Text.isBlank c = false :=
  Text.isBlank_eq_false h.bounds

theorem mem_numeral {value : Word} {c : Char} (h : c ∈ m.numeral value) : IsNumeral c := by
  have cases_of : ∀ d < 16, IsNumeral (Hex.digit d) ∧ IsNumeral (Hex.digit d).toUpper := by decide
  rcases List.mem_append.1 h with mark | digit
  · have marks : ∀ h : HexMark, h.text.all (fun c => decide (IsNumeral c)) = true := by
      intro h
      cases h <;> decide
    exact of_decide_eq_true (List.all_eq_true.1 (marks m.mark) c mark)
  · obtain ⟨d, mem, rfl⟩ := List.mem_map.1 digit
    obtain ⟨value, small, rfl⟩ : ∃ v < 16, d = Hex.digit v := by
      rcases List.mem_append.1 mem with zero | digit
      · exact ⟨0, by decide, List.eq_of_mem_replicate zero⟩
      · exact Hex.mem_digits digit
    rw [Manner.digit]
    split
    · exact (cases_of value small).2
    · exact (cases_of value small).1

/-- The wording without what stands around it. -/
def bare : Output → List Char
  | .nothing => []
  | .number value => m.numeral value
  | .refusal => "Failed to run the command".toList

variable {m} {output : Output}

theorem isNumeral_bare (answered : output ≠ .refusal) : ∀ c ∈ m.bare output, IsNumeral c := by
  intro c mem
  cases output with
  | nothing => cases mem
  | number value => exact m.mem_numeral mem
  | refusal => exact absurd rfl answered

/-- The bare wording and the end of its line are the wording. -/
theorem exists_wording_eq (answered : output ≠ .refusal) :
    ∃ e : LineEnd, m.wording output = m.bare output ++ e.text := by
  cases output with
  | nothing => exact ⟨.none, rfl⟩
  | number value => exact ⟨m.lineEnd, rfl⟩
  | refusal => exact absurd rfl answered

/-- A character that answers are made of. -/
def IsPrinted (c : Char) : Prop :=
  IsNumeral c ∨ c ∈ ['\n', '\r', '\x7b', '\x7d']

instance (c : Char) : Decidable (IsPrinted c) :=
  inferInstanceAs (Decidable (IsNumeral c ∨ c ∈ ['\n', '\r', '\x7b', '\x7d']))

theorem IsPrinted.toNat_lt {c : Char} (h : IsPrinted c) : c.toNat < 0x80 := by
  rcases h with numeral | other
  · have bounds := numeral.bounds
    omega
  · simp only [List.mem_cons, List.not_mem_nil, or_false] at other
    rcases other with rfl | rfl | rfl | rfl <;> decide

theorem isPrinted_lineEnd (e : LineEnd) : ∀ c ∈ e.text, IsPrinted c := by
  have each : e.text.all (fun c => decide (IsPrinted c)) = true := by cases e <;> decide
  exact fun c mem => of_decide_eq_true (List.all_eq_true.1 each c mem)

theorem isPrinted_wording (answered : output ≠ .refusal) : ∀ c ∈ m.wording output, IsPrinted c := by
  obtain ⟨e, wording⟩ := exists_wording_eq (m := m) answered
  intro c mem
  rw [wording] at mem
  rcases List.mem_append.1 mem with bare | line_end
  · exact .inl (isNumeral_bare answered c bare)
  · exact isPrinted_lineEnd e c line_end

theorem isPrinted_replyText (captured : Bool) (answered : output ≠ .refusal) :
    ∀ c ∈ m.replyText captured output, IsPrinted c := by
  have words := isPrinted_wording (m := m) answered
  intro c mem
  rcases List.mem_append.1 mem with text | reply_end
  · split at text
    · simp only [List.cons_append, List.mem_cons, List.mem_append, List.not_mem_nil, or_false] at text
      rcases text with rfl | wording | rfl
      · decide
      · exact words c wording
      · decide
    · exact words c text
  · exact isPrinted_lineEnd m.replyEnd c reply_end

section

variable {text : List Char} (h : ∀ c ∈ text, IsPrinted c)

include h

theorem isAscii_of_isPrinted : Utf8.IsAscii text :=
  fun c mem => (h c mem).toNat_lt

/-- A character that is never printed is not among the octets of an answer. -/
theorem octet_not_mem {c : Char} (plain : c.toNat < 0x80) (other : ¬ IsPrinted c) :
    Utf8.octet c ∉ text.map Utf8.octet := by
  rw [← Utf8.bytes_of_ascii (isAscii_of_isPrinted h)]
  refine Utf8.octet_not_mem_bytes plain fun mem => ?_
  rw [String.toList_ofList] at mem
  exact other (h c mem)

end

/-! ## What a session looks at -/

/-- **The console's answer on one line is the bare wording.** -/
theorem flat_wording (answered : output ≠ .refusal) :
    ((m.wording output).filter (· != '\r')).filter (· != '\n') = m.bare output := by
  obtain ⟨e, wording⟩ := exists_wording_eq (m := m) answered
  have kept : ∀ c ∈ m.bare output, (c != '\n' && c != '\r') = true := by
    intro c mem
    have bounds := (isNumeral_bare answered c mem).bounds
    rw [Bool.and_eq_true, bne_iff_ne, bne_iff_ne]
    refine ⟨?_, ?_⟩
    · rintro rfl
      exact absurd bounds.1 (by decide)
    · rintro rfl
      exact absurd bounds.1 (by decide)
  have dropped : e.text.filter (fun c => c != '\n' && c != '\r') = [] := by cases e <;> rfl
  rw [wording, List.filter_filter, List.filter_append, dropped, List.append_nil,
    List.filter_eq_self.2 kept]

/-- The Tcl server's reply to a command that is not captured, without the blanks at its end. -/
theorem trimEnd_replyText (answered : output ≠ .refusal) :
    Text.trimEnd (String.ofList (m.replyText false output)) = String.ofList (m.bare output) := by
  obtain ⟨e, wording⟩ := exists_wording_eq (m := m) answered
  rw [Text.trimEnd, String.toList_ofList, replyText, wording, Text.dropBlanksEnd_append m.replyEnd.isBlank_text,
    Bool.false_and, if_neg (by decide), Text.dropBlanksEnd_append e.isBlank_text,
    Text.dropBlanksEnd_of_solid fun c mem => (isNumeral_bare answered c mem).isBlank]

/-- **The Tcl server's reply without its braces is the bare wording**, whether it has come in braces or
not. -/
theorem unwrap_replyText (captured : Bool) (answered : output ≠ .refusal) :
    Tcl.unwrapBraces (Text.trimEnd (String.ofList (m.replyText captured output))) =
      String.ofList (m.bare output) := by
  obtain ⟨e, wording⟩ := exists_wording_eq (m := m) answered
  have no_blank : ∀ c ∈ m.bare output, Text.isBlank c = false := fun c mem =>
    (isNumeral_bare answered c mem).isBlank
  rw [Text.trimEnd, String.toList_ofList, replyText, wording, Text.dropBlanksEnd_append m.replyEnd.isBlank_text]
  split
  · -- In braces: the line end stands inside them.
    have closing : Text.isBlank '\x7d' = false := by decide
    rw [Text.dropBlanksEnd_concat closing, Tcl.unwrapBraces_of_braces]
    exact Text.trim_append no_blank e.isBlank_text
  · rw [Text.dropBlanksEnd_append e.isBlank_text, Text.dropBlanksEnd_of_solid no_blank,
      Tcl.unwrapBraces, Text.trim_of_solid no_blank, String.toList_ofList]
    split
    · next inner braced =>
      have brace : IsNumeral '\x7b' := isNumeral_bare answered _ (by rw [braced]; exact List.mem_cons_self)
      exact absurd brace (by decide)
    · rfl

/-! ## Numbers -/

/-- Nothing that is answered looks like a failure. -/
theorem failed_bare (answered : output ≠ .refusal) :
    Reply.failed (String.ofList (m.bare output)) = false := by
  refine Reply.occursIn_eq_false (c := 'l') (by decide) fun mem => ?_
  rw [String.toList_ofList] at mem
  exact (isNumeral_bare answered _ mem).2 rfl

theorem valueFrom?_digits (value : Word) : Numeral.valueFrom? 16 0 (m.digits value) = some value.toNat := by
  refine Numeral.valueFrom?_paddedDigits _ ?_ _ _
  intro d small
  rw [digit]
  split
  · exact Numeral.digitIn_upperHexDigit d small
  · exact Numeral.digitIn_hexDigit d small

/-- The mark of a number is not taken for a digit. -/
theorem unmarked_numeral (value : Word) : Reply.unmarked (m.numeral value) = m.digits value := by
  rw [numeral]
  cases m.mark with
  | none =>
    have digits : ∀ c ∈ m.digits value, (Numeral.digitIn 16 c).isSome := fun c mem =>
      Numeral.isSome_digitIn_of_valueFrom? (valueFrom?_digits value) mem
    exact Reply.unmarked_eq_self (fun mem => absurd (digits 'x' mem) (by decide)) fun mem =>
      absurd (digits 'X' mem) (by decide)
  | lower => rfl
  | upper => rfl

/-- **A number is read out of its wording.** -/
theorem word_numeral (value : Word) : Reply.word (String.ofList (m.numeral value)) = .ok value := by
  have no_blank : ∀ c ∈ m.numeral value, Text.isBlank c = false := fun c mem =>
    (m.mem_numeral mem).isBlank
  have some_digits : m.digits value ≠ [] := by
    intro none
    rw [digits, List.map_eq_nil_iff, Hex.paddedDigits, List.append_eq_nil_iff] at none
    exact Hex.digits_ne_nil value.toNat none.2
  have read : Numeral.readNatural 16 (1 <<< 32) (m.digits value) = .ok value.toNat :=
    Numeral.readNatural_of_valueFrom? (by decide) some_digits (valueFrom?_digits value) value.isLt
  rw [Reply.word, Text.trim_of_solid no_blank, String.toList_ofList, unmarked_numeral, read]
  dsimp only
  rw [BitVec.ofNat_toNat]
  rfl

end Manner

end HartDebug
