import HartDebug.Proofs.Text.Blanks
import HartDebug.Proofs.Text.Numerals
import HartDebug.Proofs.Wire.Replies

/-!
# What a read makes of a text

A register is read as a number in hexadecimal, which an adapter prints as it likes.  A text that speaks of a
failure is a failure, and any other that is no number of 32 bits is refused.

* `Reply.IsNumber`, `Reply.isNumber_iff` — a text that writes a number, and **which number it writes**;
* `Reply.Speaks` — a text that speaks of a failure;
* `Reply.Reading`, `Reply.reading_of_text` — **what a read makes of a text**;
* `Service.speaks_wording` — **a failure is not lost** in what is made of a reply.
-/

namespace HartDebug

/-! ## Texts that write a number -/

namespace Reply

/-- The text writes a number in hexadecimal: behind a mark or none and a plus sign or none stand its digits,
one at least. -/
def IsNumber (text : List Char) (n : Nat) : Prop :=
  ∃ mark sign digits, mark ∈ [[], ['0', 'x'], ['0', 'X']] ∧ sign ∈ [[], ['+']] ∧
    text = mark ++ sign ++ digits ∧ Numeral.natural? 16 digits = some n

/-- A text that speaks of a failure. -/
def Speaks (text : List Char) : Prop :=
  "Failed".toList <:+: text

/-- What a read makes of the text of a reply. -/
structure Reading (text : String) (outcome : Except DebugError Word) : Prop where
  failure : Speaks text.toList → outcome = .error (.adapterFailure text)
  number : ¬ Speaks text.toList → ∀ v, outcome = .ok v ↔ IsNumber (Text.trim text).toList v.toNat
  refusal : ¬ Speaks text.toList → (∀ v, outcome ≠ .ok v) →
    outcome = .error (.protocol (.notHexadecimal (Text.trim text)))

/-! ### Marks and signs -/

/-- A text is its mark and what stands behind it. -/
theorem exists_mark (text : List Char) :
    ∃ mark ∈ [[], ['0', 'x'], ['0', 'X']], text = mark ++ unmarked text := by
  rw [unmarked.eq_def]
  split
  · exact ⟨['0', 'x'], by simp, rfl⟩
  · exact ⟨['0', 'X'], by simp, rfl⟩
  · exact ⟨[], by simp, rfl⟩

/-- A text is its sign and what stands behind it. -/
theorem exists_sign (text : List Char) : ∃ sign ∈ [[], ['+']], text = sign ++ Numeral.unsigned text := by
  rw [Numeral.unsigned.eq_def]
  split
  · exact ⟨['+'], by simp, rfl⟩
  · exact ⟨[], by simp, rfl⟩

/-- The characters of a numeral are digits. -/
theorem isSome_digitIn_of_natural? {digits : List Char} {n : Nat}
    (value : Numeral.natural? 16 digits = some n) : ∀ c ∈ digits, (Numeral.digitIn 16 c).isSome := by
  intro c mem
  rw [Numeral.natural?_eq_valueFrom? (List.ne_nil_of_mem mem)] at value
  exact Numeral.isSome_digitIn_of_valueFrom? value mem

/-- A mark is taken away once, and what stands behind it is no mark. -/
theorem unmarked_append {mark text : List Char} (marked : mark ∈ [[], ['0', 'x'], ['0', 'X']])
    (lower : 'x' ∉ text) (upper : 'X' ∉ text) : unmarked (mark ++ text) = text := by
  simp only [List.mem_cons, List.not_mem_nil, or_false] at marked
  rcases marked with rfl | rfl | rfl
  · exact unmarked_eq_self lower upper
  · rfl
  · rfl

theorem unsigned_append {sign digits : List Char} (signed : sign ∈ [[], ['+']]) (plain : '+' ∉ digits) :
    Numeral.unsigned (sign ++ digits) = digits := by
  simp only [List.mem_cons, List.not_mem_nil, or_false] at signed
  rcases signed with rfl | rfl
  · rw [List.nil_append, Numeral.unsigned.eq_def]
    split
    · exact absurd List.mem_cons_self plain
    · rfl
  · rfl

/-- **A text writes the number that is left of it** without its mark and its sign. -/
theorem isNumber_iff {text : List Char} {n : Nat} :
    IsNumber text n ↔ Numeral.natural? 16 (Numeral.unsigned (unmarked text)) = some n := by
  constructor
  · rintro ⟨mark, sign, digits, marked, signed, rfl, value⟩
    have each := isSome_digitIn_of_natural? value
    have absent : ∀ c, Numeral.digitIn 16 c = none → c ≠ '+' → c ∉ sign ++ digits := by
      intro c no_digit no_sign mem
      simp only [List.mem_cons, List.not_mem_nil, or_false] at signed
      rcases List.mem_append.1 mem with inside | inside
      · rcases signed with rfl | rfl
        · cases inside
        · exact no_sign (List.mem_singleton.1 inside)
      · have digit := each c inside
        rw [no_digit] at digit
        cases digit
    have plain : '+' ∉ digits := fun mem => absurd (each '+' mem) (by decide)
    rw [List.append_assoc, unmarked_append marked (absent 'x' (by decide) (by decide))
      (absent 'X' (by decide) (by decide)), unsigned_append signed plain]
    exact value
  · intro value
    obtain ⟨mark, marked, split⟩ := exists_mark text
    obtain ⟨sign, signed, rest⟩ := exists_sign (unmarked text)
    exact ⟨mark, sign, _, marked, signed, by rw [List.append_assoc, ← rest, ← split], value⟩

/-! ### What is made of a text -/

theorem failed_iff (text : String) : failed text = true ↔ Speaks text.toList :=
  occursIn_iff

/-- A number is read out of a text if and only if the text, without the blanks around it, writes this
number. -/
theorem word_eq_ok_iff (text : String) (v : Word) :
    word text = .ok v ↔ IsNumber (Text.trim text).toList v.toNat := by
  have accepted (n : Nat) :
      Numeral.readNatural 16 (1 <<< 32) (unmarked (Text.trim text).toList) = .ok n ↔ _ ∧ n < 2 ^ 32 :=
    Numeral.readNatural_eq_ok_iff (by decide) (by decide)
  rw [isNumber_iff, word]
  cases read : Numeral.readNatural 16 (1 <<< 32) (unmarked (Text.trim text).toList) with
  | error fault =>
    constructor
    · intro refused
      cases refused
    · intro value
      rw [(accepted v.toNat).2 ⟨value, v.isLt⟩] at read
      cases read
  | ok n =>
    obtain ⟨value, small⟩ := (accepted n).1 read
    rw [value, Option.some.injEq, Except.ok.injEq, ← BitVec.toNat_inj, BitVec.toNat_ofNat,
      Nat.mod_eq_of_lt small]

/-- Every other text is refused. -/
theorem word_of_other {text : String} (other : ∀ v, word text ≠ .ok v) :
    word text = .error (.protocol (.notHexadecimal (Text.trim text))) := by
  rw [word] at other ⊢
  split
  · next n read =>
    rw [read] at other
    exact absurd rfl (other _)
  · rfl

/-- **What a read makes of a text** is told by the text alone. -/
theorem reading_of_text (text : String) : Reading text (readingOf text) := by
  by_cases speaks : Speaks text.toList
  · have failure : readingOf text = .error (.adapterFailure text) := if_pos ((failed_iff text).2 speaks)
    exact ⟨fun _ => failure, fun quiet => absurd speaks quiet, fun quiet => absurd speaks quiet⟩
  · have value : readingOf text = word text := if_neg fun failed => speaks ((failed_iff text).1 failed)
    rw [value]
    exact ⟨fun said => absurd said speaks, fun _ => word_eq_ok_iff text, fun _ => word_of_other⟩

end Reply

/-! ## Replies that speak of a failure -/

/-- Only what is left without the blanks at the ends matters. -/
theorem Tcl.unwrapBraces_congr {s t : String} (same : Text.trim s = Text.trim t) :
    unwrapBraces s = unwrapBraces t := by
  rw [unwrapBraces, unwrapBraces, same]

/-- What is left before a closing brace. -/
theorem Tcl.dropClosing?_eq_some {text body : List Char} (closed : dropClosing? text = some body) :
    text = body ++ ['\x7d'] := by
  rw [dropClosing?] at closed
  split at closed
  · next last =>
    cases closed
    exact (List.dropLast_append_getLast? _ last).symm
  · cases closed

section

variable {α : Type} {pattern front text tail : List α}

/-- What occurs in a text occurs behind a front that has nothing in common with it. -/
theorem infix_of_infix_append_left (some_pattern : pattern ≠ []) (apart : ∀ c ∈ pattern, c ∉ front)
    (inside : pattern <:+: front ++ text) : pattern <:+: text := by
  rcases List.infix_append_iff.1 inside with within | within | ⟨left, right, rfl, ends, begins⟩
  · obtain ⟨c, rest, rfl⟩ := List.exists_cons_of_ne_nil some_pattern
    exact absurd (within.subset List.mem_cons_self) (apart c List.mem_cons_self)
  · exact within
  · cases left with
    | nil => exact begins.isInfix
    | cons c left => exact absurd (ends.subset List.mem_cons_self) (apart c List.mem_cons_self)

/-- The same in front of a tail. -/
theorem infix_of_infix_append_right (some_pattern : pattern ≠ []) (apart : ∀ c ∈ pattern, c ∉ tail)
    (inside : pattern <:+: text ++ tail) : pattern <:+: text := by
  rw [← List.reverse_infix, List.reverse_append] at inside
  rw [← List.reverse_infix]
  exact infix_of_infix_append_left (by simpa using some_pattern) (by simpa using apart) inside

end

namespace Reply

/-- A word of letters is found where blanks and braces are left out at the ends. -/
theorem Speaks.of_append {front text tail : List Char} (speaks : Speaks (front ++ text ++ tail))
    (before : ∀ c ∈ front, c.isAlpha = false) (after : ∀ c ∈ tail, c.isAlpha = false) : Speaks text := by
  have letters : ∀ c ∈ "Failed".toList, c.isAlpha = true := List.all_eq_true.1 (by decide)
  have apart {others : List Char} (plain : ∀ c ∈ others, c.isAlpha = false) :
      ∀ c ∈ "Failed".toList, c ∉ others := by
    intro c letter mem
    have none := plain c mem
    rw [letters c letter] at none
    cases none
  refine infix_of_infix_append_left (by decide) (apart before) ?_
  exact infix_of_infix_append_right (by decide) (apart after) speaks

theorem isAlpha_of_blank {text : List Char} (blank : Text.Blank text) : ∀ c ∈ text, c.isAlpha = false := by
  intro c mem
  rw [Bool.eq_false_iff]
  intro letter
  have alphanum : c.isAlphanum = true := by rw [Char.isAlphanum, letter, Bool.true_or]
  have no_blank := Text.isBlank_eq_false (Utf8.toNat_of_isAlphanum alphanum)
  rw [blank c mem] at no_blank
  cases no_blank

theorem Speaks.trim {text : String} (speaks : Speaks text.toList) : Speaks (Text.trim text).toList := by
  obtain ⟨front, tail, split, before, after⟩ := Text.exists_blanks text
  rw [split] at speaks
  exact speaks.of_append (isAlpha_of_blank before) (isAlpha_of_blank after)

/-- A failure is spoken of inside the braces. -/
theorem Speaks.unwrapBraces {text : String} (speaks : Speaks text.toList) :
    Speaks (Tcl.unwrapBraces text).toList := by
  have trimmed := speaks.trim
  rw [Tcl.unwrapBraces]
  split
  · next inner braced =>
    split
    · next body closed =>
      obtain rfl := Tcl.dropClosing?_eq_some closed
      rw [braced] at trimmed
      have whole : Speaks (['\x7b'] ++ body ++ ['\x7d']) := trimmed
      have inside : Speaks (String.ofList body).toList := by
        rw [String.toList_ofList]
        exact whole.of_append (List.forall_mem_singleton.2 (by decide)) (List.forall_mem_singleton.2 (by decide))
      exact inside.trim
    · exact trimmed
  · exact trimmed

end Reply

/-- **A failure that a reply speaks of is not lost** in what is made of the reply. -/
theorem Service.speaks_wording {service : Service} {body : List Byte}
    (speaks : Reply.Speaks (Utf8.decode body)) :
    Reply.Speaks (service.wording body).toList := by
  cases service with
  | console =>
    rw [wording, String.toList_ofList]
    have kept : ("Failed".toList.filter (· != '\r')).filter (· != '\n') = "Failed".toList := by decide
    have inside := (speaks.filter (· != '\r')).filter (· != '\n')
    rwa [kept] at inside
  | tcl =>
    have raw : Reply.Speaks (Utf8.text body).toList := by
      rw [Utf8.text, String.toList_ofList]
      exact speaks
    rw [wording, Tcl.unwrapBraces_congr (Text.trim_trimEnd _)]
    exact raw.unwrapBraces

end HartDebug
