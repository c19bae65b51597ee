import HartDebug.Proofs.Text.Characters
import HartDebug.Proofs.Wire.InStep
import HartDebug.Proofs.Wire.ReplyText

/-!
# Values in replies

An adapter prints a word in either case, with a mark or without one, behind zeros and among blanks, and a
captured one in braces perhaps.  None of that matters to what is read.

* `Reply.IsRendering`, `Service.Renders` — the renderings of a word, and of a reply with one;
* `Service.value_of_renders` — **every rendering is read as its word**;
* `Service.body?_of_renders` — a rendering ends where its reply ends;
* `Service.ReadsExactly`, `values_read_exactly` — **what both services read out of replies**, over every stream
  that delivers.
-/

namespace HartDebug

open Action (Yields)

/-! ## Renderings of a word -/

namespace Reply

/-- A word as it may be printed: its digits, each in either case, behind any number of zeros and behind a mark
or none. -/
def IsRendering (v : Word) (text : List Char) : Prop :=
  ∃ mark zeros digits, mark ∈ [[], ['0', 'x'], ['0', 'X']] ∧ digits.map Char.toLower = Hex.digits v.toNat ∧
    text = mark ++ (List.replicate zeros '0' ++ digits)

/-- A letter is the same digit in either case. -/
theorem digitIn_toLower (base : Nat) (c : Char) : Numeral.digitIn base c.toLower = Numeral.digitIn base c := by
  have same : Numeral.digitValue c.toLower = Numeral.digitValue c := by
    by_cases plain : c.toNat < 0x80
    · have each : ∀ n < 0x80, Numeral.digitValue (Char.ofNat n).toLower = Numeral.digitValue (Char.ofNat n) := by
        decide
      have here := each c.toNat plain
      rwa [Char.ofNat_toNat] at here
    · have no_upper : ¬ (c.val ≥ 'A'.val ∧ c.val ≤ 'Z'.val) := by
        rintro ⟨-, upper⟩
        have last : c.toNat ≤ 0x5a := upper
        omega
      have unchanged : c.toLower = c := dif_neg no_upper
      rw [unchanged]
  rw [Numeral.digitIn, Numeral.digitIn, same]

theorem valueFrom?_map_toLower (base sofar : Nat) (text : List Char) :
    Numeral.valueFrom? base sofar (text.map Char.toLower) = Numeral.valueFrom? base sofar text := by
  induction text generalizing sofar with
  | nil => rfl
  | cons c text ih =>
    rw [List.map_cons, Numeral.valueFrom?, Numeral.valueFrom?, digitIn_toLower]
    cases Numeral.digitIn base c with
    | none => rfl
    | some d => exact ih (sofar * base + d)

variable {v : Word} {text : List Char}

/-- The digits of a rendering have the value of the word. -/
theorem natural?_of_lower {zeros : Nat} {digits : List Char}
    (lower : digits.map Char.toLower = Hex.digits v.toNat) :
    Numeral.natural? 16 (List.replicate zeros '0' ++ digits) = some v.toNat := by
  have some_digits : digits ≠ [] := by
    rintro rfl
    exact Hex.digits_ne_nil v.toNat lower.symm
  have padded : (List.replicate zeros '0' ++ digits).map Char.toLower =
      Hex.paddedDigits (zeros + (Hex.digits v.toNat).length) v.toNat := by
    rw [List.map_append, List.map_replicate, lower, Hex.paddedDigits, Nat.add_sub_cancel]
    rfl
  have value := Numeral.valueFrom?_paddedDigits id Numeral.digitIn_hexDigit
    (zeros + (Hex.digits v.toNat).length) v.toNat
  rw [Numeral.natural?_eq_valueFrom? (List.append_ne_nil_of_right_ne_nil _ some_digits),
    ← valueFrom?_map_toLower, padded, ← value, List.map_id]

/-- **A rendering writes its word.** -/
theorem IsRendering.isNumber (h : IsRendering v text) : IsNumber text v.toNat := by
  obtain ⟨mark, zeros, digits, marked, lower, rfl⟩ := h
  exact ⟨mark, [], _, marked, by simp, by rw [List.append_nil], natural?_of_lower lower⟩

/-- A rendering is made of digits and of the letter of its mark. -/
theorem IsRendering.digit_of_mem (h : IsRendering v text) {c : Char} (mem : c ∈ text) :
    c = 'x' ∨ c = 'X' ∨ (Numeral.digitIn 16 c).isSome := by
  obtain ⟨mark, zeros, digits, marked, lower, rfl⟩ := h
  rcases List.mem_append.1 mem with inside | inside
  · simp only [List.mem_cons, List.not_mem_nil, or_false] at marked
    rcases marked with rfl | rfl | rfl
    · cases inside
    · simp only [List.mem_cons, List.not_mem_nil, or_false] at inside
      rcases inside with rfl | rfl <;> decide
    · simp only [List.mem_cons, List.not_mem_nil, or_false] at inside
      rcases inside with rfl | rfl <;> decide
  · exact .inr (.inr (isSome_digitIn_of_natural? (natural?_of_lower lower) c inside))

theorem IsRendering.bounds (h : IsRendering v text) {c : Char} (mem : c ∈ text) :
    0x30 ≤ c.toNat ∧ c.toNat < 0x7b := by
  rcases h.digit_of_mem mem with rfl | rfl | digit
  · decide
  · decide
  · exact Numeral.toNat_of_isSome_digitIn digit

theorem IsRendering.solid (h : IsRendering v text) : Text.Solid text :=
  fun _ mem => Text.isBlank_eq_false (h.bounds mem)

/-- **A rendering is read as its word**, whatever blanks stand around it. -/
theorem IsRendering.readingOf (h : IsRendering v text) {front tail : List Char} (before : Text.Blank front)
    (after : Text.Blank tail) : readingOf (String.ofList (front ++ text ++ tail)) = .ok v := by
  have absent : 'l' ∉ front ++ text ++ tail := by
    rw [List.mem_append, List.mem_append, not_or, not_or]
    refine ⟨⟨fun mem => absurd (before _ mem) (by decide), fun mem => ?_⟩,
      fun mem => absurd (after _ mem) (by decide)⟩
    exact absurd (h.digit_of_mem mem) (by decide)
  have quiet : ¬ Speaks (String.ofList (front ++ text ++ tail)).toList := by
    rw [String.toList_ofList]
    exact fun speaks => absent (speaks.subset (by decide))
  rw [(reading_of_text _).number quiet, Text.trim_of_blanks before after, Text.trim_of_solid h.solid,
    String.toList_ofList]
  exact h.isNumber

end Reply

namespace Service

/-- A text of a reply in which a word is rendered: among blanks, and with the Tcl server in braces perhaps. -/
inductive Renders (v : Word) : Service → List Char → Prop where
  | bare (service : Service) {front numeral tail : List Char} (before : Text.Blank front)
      (rendering : Reply.IsRendering v numeral) (after : Text.Blank tail) :
      Renders v service (front ++ numeral ++ tail)
  | braced {outside front numeral tail behind : List Char} (around : Text.Blank outside ∧ Text.Blank behind)
      (before : Text.Blank front) (rendering : Reply.IsRendering v numeral) (after : Text.Blank tail) :
      Renders v .tcl (outside ++ ('\x7b' :: (front ++ numeral ++ tail) ++ ['\x7d']) ++ behind)

variable {v : Word} {service : Service} {text : List Char}

/-- A character that is no blank, belongs to no number and is no brace is not in such a text. -/
theorem Renders.absent (h : service.Renders v text) {c : Char} (no_blank : Text.isBlank c = false)
    (no_mark : c ≠ 'x' ∧ c ≠ 'X') (no_digit : Numeral.digitIn 16 c = none) (no_brace : c ≠ '\x7b' ∧ c ≠ '\x7d') :
    c ∉ text := by
  have not_blank {blanks : List Char} (blank : Text.Blank blanks) : c ∉ blanks := fun mem => by
    rw [blank c mem] at no_blank
    cases no_blank
  have not_number {numeral : List Char} (rendering : Reply.IsRendering v numeral) : c ∉ numeral := fun mem => by
    rcases rendering.digit_of_mem mem with lower | upper | digit
    · exact no_mark.1 lower
    · exact no_mark.2 upper
    · rw [no_digit] at digit
      cases digit
  cases h with
  | bare service before rendering after =>
    simp only [List.mem_append, not_or]
    exact ⟨⟨not_blank before, not_number rendering⟩, not_blank after⟩
  | braced around before rendering after =>
    simp only [List.mem_append, List.mem_cons, List.not_mem_nil, or_false, not_or]
    exact ⟨⟨not_blank around.1, ⟨no_brace.1, ⟨not_blank before, not_number rendering⟩, not_blank after⟩,
      no_brace.2⟩, not_blank around.2⟩

end Service

/-! ### On the Tcl server -/

namespace Tcl

/-- A text without blanks that does not begin with a brace is left as it is. -/
theorem unwrapBraces_of_plain {text : List Char} (no_blank : Text.Solid text)
    (no_brace : '\x7b' ∉ text) : unwrapBraces (String.ofList text) = String.ofList text := by
  rw [unwrapBraces, Text.trim_of_solid no_blank, String.toList_ofList]
  split
  · exact absurd List.mem_cons_self no_brace
  · rfl

end Tcl

namespace Service

variable {v : Word} {service : Service} {text : List Char}

theorem value_tcl (text : List Char) :
    Service.tcl.value (Utf8.bytes (String.ofList text)) = readingOf (Tcl.unwrapBraces (String.ofList text)) := by
  rw [value, wording, Utf8.text_bytes, Tcl.unwrapBraces_congr (Text.trim_trimEnd _)]

/-- **Every rendering is read as its word.** -/
theorem value_of_renders (h : service.Renders v text) :
    service.value (Utf8.bytes (String.ofList text)) = .ok v := by
  have alone {numeral : List Char} (rendering : Reply.IsRendering v numeral) :
      readingOf (String.ofList numeral) = .ok v := by
    have read : readingOf (String.ofList ([] ++ numeral ++ [])) = .ok v :=
      rendering.readingOf Text.blank_nil Text.blank_nil
    rwa [List.nil_append, List.append_nil] at read
  cases h with
  | @bare _ front numeral tail before rendering after =>
    cases service with
    | console =>
      have kept : ∀ c ∈ numeral, (c != '\n' && c != '\r') = true := by
        intro c mem
        have bounds := rendering.bounds mem
        rw [Bool.and_eq_true, bne_iff_ne, bne_iff_ne]
        constructor <;> rintro rfl <;> exact absurd bounds.1 (by decide)
      rw [value, wording, Utf8.decode_bytes, String.toList_ofList, List.filter_filter, List.filter_append,
        List.filter_append, List.filter_eq_self.2 kept]
      exact rendering.readingOf (before.filter _) (after.filter _)
    | tcl =>
      have no_brace : '\x7b' ∉ numeral := fun mem => absurd (rendering.bounds mem).2 (by decide)
      rw [value_tcl, Tcl.unwrapBraces_congr (Text.trim_of_blanks before after numeral),
        Tcl.unwrapBraces_of_plain rendering.solid no_brace]
      exact alone rendering
  | @braced outside front numeral tail behind around before rendering after =>
    rw [value_tcl, Tcl.unwrapBraces_congr (Text.trim_of_blanks around.1 around.2 _),
      Tcl.unwrapBraces_of_braces, Text.trim_of_blanks before after, Text.trim_of_solid rendering.solid]
    exact alone rendering

/-! ## Reading over a stream -/

/-- The octets of a reply: on the console a line that repeats the command, the answer and the prompt, and with
the Tcl server the answer and the end mark. -/
def framed : Service → List Byte → List Byte → List Byte
  | .console, echo, answer => echo ++ [0x0a] ++ answer ++ Console.prompt
  | .tcl, _, answer => answer ++ [TclServer.endMark]

/-- **A rendering ends where its reply ends.** -/
theorem body?_of_renders (h : service.Renders v text) {echo : List Byte} (line : 0x0a ∉ echo)
    (plain : Telnet.interpretAsCommand ∉ echo) (rest : List Byte) :
    service.body? (service.framed echo (Utf8.bytes (String.ofList text)) ++ rest) =
      some (Utf8.bytes (String.ofList text), rest) := by
  cases service with
  | console =>
    have no_mark : '>' ∉ (String.ofList text).toList := by
      rw [String.toList_ofList]
      exact h.absent (by decide) (by decide) (by decide) (by decide)
    have no_prompt : ¬ Console.prompt <:+: Utf8.bytes (String.ofList text) := by
      rw [Console.bytes_prompt]
      exact fun inside => Utf8.octet_not_mem_bytes (by decide) no_mark (inside.subset List.mem_cons_self)
    have no_command : Telnet.interpretAsCommand ∉ echo ++ Utf8.bytes (String.ofList text) := by
      rw [List.mem_append, not_or]
      exact ⟨plain, Utf8.max_not_mem_bytes _⟩
    exact (WholeReply.lined echo _ line no_command no_prompt).body?_append rest
  | tcl =>
    have no_end : '\x1a' ∉ (String.ofList text).toList := by
      rw [String.toList_ofList]
      exact h.absent (by decide) (by decide) (by decide) (by decide)
    exact (WholeReply.marked _ (Utf8.octet_not_mem_bytes (c := '\x1a') (by decide) no_end)).body?_append rest

/-- Values are read out of replies exactly: every rendering of a word, in octets that are a reply, is read as
this word; a reply that speaks of a failure is a failure; and from any other exactly the numbers are read that
it consists of. -/
structure ReadsExactly {τ : Type} [Transport τ] (service : Service) (stands : List Byte → List Byte → τ → Prop) :
    Prop where
  rendered : ∀ {v text}, service.Renders v text → ∀ {echo}, 0x0a ∉ echo → Telnet.interpretAsCommand ∉ echo →
    ∀ (address : BusAddress) sent rest,
      Yields (stands sent (service.framed echo (Utf8.bytes (String.ofList text)) ++ rest)) (Bus.read address)
        (.ok v)
        (stands (sent ++ service.line (.printed s!"riscv dmi_read {Hex.text address.toNat}")) rest)
  every : ∀ {unread body rest}, service.body? unread = some (body, rest) → ∀ (address : BusAddress) sent,
    ∃ outcome, Yields (stands sent unread) (Bus.read address) outcome
        (stands (sent ++ service.line (.printed s!"riscv dmi_read {Hex.text address.toNat}")) rest) ∧
      Reply.Reading (service.wording body) outcome ∧
      (Reply.Speaks (Utf8.decode body) → outcome = .error (.adapterFailure (service.wording body)))

section

variable {τ : Type} [Transport τ] {stands : List Byte → List Byte → τ → Prop} {tap : String}
  {tapName : τ → String} {run : Exchange → Action DebugError τ String}
  {select : String → Action DebugError τ String} {source : Source}

theorem Serves.readsExactly (serves : service.Serves stands tap tapName run select source) :
    service.ReadsExactly stands where
  rendered renders _ line plain address sent rest := by
    rw [← value_of_renders renders]
    exact serves.yields_value (body?_of_renders renders line plain rest) address sent
  every {unread body rest} taken address sent := by
    have reading := Reply.reading_of_text (service.wording body)
    exact ⟨service.value body, serves.yields_value taken address sent, reading,
      fun speaks => reading.failure (speaks_wording speaks)⟩

end

end Service

/-- **Values are read exactly** on both services, over every stream that delivers. -/
theorem values_read_exactly {σ : Type} [ByteStream σ] {holds : List Byte → σ → Prop}
    (delivers : ByteStream.Delivers holds) (tap : String) :
    Service.console.ReadsExactly (Console.Stands holds tap) ∧
      Service.tcl.ReadsExactly (TclServer.Stands holds tap) :=
  ⟨(Console.serves delivers tap).readsExactly, (TclServer.serves delivers tap).readsExactly⟩

/-- One word in two renderings: behind a mark and zeros before the end of a line, and in braces with blanks on
both sides of them.  The pieces that come are cut within the number. -/
theorem values_read_exactly_in_two_renderings :
    let script (pieces : List String) : ScriptedStream :=
      { incoming := pieces.map fun piece => .octets (plainOctets piece) }
    let c := Console.ofStream (script ["riscv dmi_read 0x11\r\n0X00aB", "cD \r\n> "]) {} fun _ => .error .ended
    let t := TclServer.ofStream (script ["\t\x7b abC", "d \x7d\n\x1a"]) {} fun _ => .error .ended
    ByteStream.Delivers ScriptedStream.Brings ∧
      (∃ c', (Bus.read .dmstatus).exec c = (.ok 0xabcd, c')) ∧
      ∃ t', (Bus.read .dmstatus).exec t = (.ok 0xabcd, t') := by
  intro script c t
  have exactly := values_read_exactly ScriptedStream.delivers "riscv.cpu"
  refine ⟨ScriptedStream.delivers, ?_, ?_⟩
  · have number : Reply.IsRendering 0xabcd "0X00aBcD".toList :=
      ⟨['0', 'X'], 2, "aBcD".toList, by decide, by decide +kernel, rfl⟩
    have renders : Service.console.Renders 0xabcd ([] ++ "0X00aBcD".toList ++ " \r\n".toList) :=
      .bare .console Text.blank_nil number (by decide)
    have octets : Utf8.bytes (String.ofList ([] ++ "0X00aBcD".toList ++ " \r\n".toList)) =
        plainOctets "0X00aBcD \r\n" := Utf8.bytes_of_ascii (by decide)
    have before : c.Stands ScriptedStream.Brings "riscv.cpu" []
        (Service.console.framed (plainOctets "riscv dmi_read 0x11\r")
          (Utf8.bytes (String.ofList ([] ++ "0X00aBcD".toList ++ " \r\n".toList))) ++ []) := by
      rw [octets, Service.framed, Console.bytes_prompt]
      exact ⟨rfl, _, rfl, rfl, _, ⟨⟨["riscv dmi_read 0x11\r\n0X00aB", "cD \r\n> "].map plainOctets, rfl,
        by decide, by decide +kernel⟩, rfl, nofun⟩, rfl⟩
    obtain ⟨c', ran, -⟩ := exactly.1.rendered renders (by decide) (by decide) .dmstatus [] [] c before
    exact ⟨c', ran⟩
  · have number : Reply.IsRendering 0xabcd "abCd".toList :=
      ⟨[], 0, "abCd".toList, by decide, by decide +kernel, rfl⟩
    have renders : Service.tcl.Renders 0xabcd
        (['\t'] ++ ('\x7b' :: ([' '] ++ "abCd".toList ++ [' ']) ++ ['\x7d']) ++ ['\n']) :=
      .braced ⟨by decide, by decide⟩ (by decide) number (by decide)
    have octets : Utf8.bytes (String.ofList (['\t'] ++
        ('\x7b' :: ([' '] ++ "abCd".toList ++ [' ']) ++ ['\x7d']) ++ ['\n'])) =
        plainOctets "\t\x7b abCd \x7d\n" := Utf8.bytes_of_ascii (by decide)
    have before : t.Stands ScriptedStream.Brings "riscv.cpu" []
        (Service.tcl.framed [] (Utf8.bytes (String.ofList (['\t'] ++
          ('\x7b' :: ([' '] ++ "abCd".toList ++ [' ']) ++ ['\x7d']) ++ ['\n']))) ++ []) := by
      rw [octets, Service.framed]
      exact ⟨rfl, _, rfl, rfl, _, ⟨⟨["\t\x7b abC", "d \x7d\n\x1a"].map plainOctets, rfl, by decide,
        by decide +kernel⟩, rfl, nofun⟩, rfl⟩
    obtain ⟨t', ran, -⟩ := exactly.2.rendered renders List.not_mem_nil List.not_mem_nil .dmstatus [] [] t before
    exact ⟨t', ran⟩

end HartDebug
