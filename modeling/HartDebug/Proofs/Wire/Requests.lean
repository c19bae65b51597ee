import HartDebug.Proofs.Text.Digits
import HartDebug.Proofs.Wire.Adapter
import HartDebug.Wire.Tcl

/-!
# Commands and the requests they are

A session writes its commands as text, with numbers in hexadecimal; an adapter takes them apart into words
and reads the numbers again.  What the adapter is asked for is what the session means.

* `IsTapName` — names that can stand in a command;
* `AdapterPort.number?_text` — **a number is read as it was written**;
* `IsSendable` — commands that neither break a line nor need quoting;
* `AdapterPort.understands_write`, `understands_read`, `understands_reset`, `understands_select`,
  `understands_shift` — **each command is the request that it is meant to be**.
-/

namespace HartDebug

/-- A name that can stand in a command: it has no blanks, no control characters, and nothing that means
something in a quoted word. -/
def IsTapName (name : String) : Prop :=
  ∀ c ∈ name.toList, 0x20 < c.toNat ∧ Tcl.isSpecial c = false

instance (name : String) : Decidable (IsTapName name) :=
  List.decidableBAll _ name.toList

/-- Names made of letters, digits, points, underscores and dashes can stand in a command. -/
theorem isTapName_of_alphanum {name : String}
    (h : name.toList.all (fun c => c.isAlphanum || c == '.' || c == '_' || c == '-') = true) :
    IsTapName name := by
  intro c mem
  have made := List.all_eq_true.1 h c mem
  simp only [Bool.or_eq_true, beq_iff_eq] at made
  rcases made with ((alphanum | rfl) | rfl) | rfl
  · have above := (Utf8.toNat_of_isAlphanum alphanum).1
    refine ⟨by omega, ?_⟩
    rw [Bool.eq_false_iff]
    intro special
    simp only [Tcl.isSpecial, Bool.or_eq_true, beq_iff_eq] at special
    rcases special with (((rfl | rfl) | rfl) | rfl) | rfl <;> cases alphanum
  · decide
  · decide
  · decide

/-- A command that neither breaks a line nor needs quoting. -/
def IsSendable (command : String) : Prop :=
  ∀ c ∈ command.toList, 0x20 ≤ c.toNat ∧ Tcl.isSpecial c = false

instance (command : String) : Decidable (IsSendable command) :=
  List.decidableBAll _ command.toList

theorem isAscii_hexText (n : Nat) : Utf8.IsAscii (Hex.text n).toList :=
  Hex.forall_mem_text (by decide) (by decide) n

namespace IsSendable

theorem append {s t : String} (hs : IsSendable s) (ht : IsSendable t) : IsSendable (s ++ t) := by
  intro c mem
  rw [String.toList_append] at mem
  rcases List.mem_append.1 mem with front | back
  · exact hs c front
  · exact ht c back

theorem of_tapName {name : String} (h : IsTapName name) : IsSendable name := fun c mem =>
  ⟨Nat.le_of_lt (h c mem).1, (h c mem).2⟩

theorem hexText (n : Nat) : IsSendable (Hex.text n) :=
  Hex.forall_mem_text (by decide) (by decide) n

variable {command : String} (h : IsSendable command)

include h

/-- No octet of the command is a control character or means something in a quoted word. -/
theorem octet_not_mem {c : Char} (plain : c.toNat < 0x80)
    (other : c.toNat < 0x20 ∨ Tcl.isSpecial c = true) : Utf8.octet c ∉ Utf8.bytes command := by
  refine Utf8.octet_not_mem_bytes plain fun mem => ?_
  obtain ⟨large, ordinary⟩ := h c mem
  rcases other with control | special
  · omega
  · rw [ordinary] at special
    cases special

/-- Quoting leaves the command as it is. -/
theorem quoteBody_eq : Tcl.quoteBody command.toList = command.toList := by
  have ordinary : ∀ c ∈ command.toList, Tcl.isSpecial c = false := fun c mem => (h c mem).2
  generalize command.toList = text at ordinary
  induction text with
  | nil => rfl
  | cons c text ih =>
    have rest := ih fun d mem => ordinary d (List.mem_cons_of_mem c mem)
    rw [Tcl.quoteBody] at rest ⊢
    rw [List.flatMap_cons, rest, ordinary c List.mem_cons_self]
    rfl

end IsSendable

namespace AdapterPort

/-! ### Words -/

theorem words_of_blank_free {word : List Byte} (h : blank ∉ word) : words word = [word] := by
  induction word with
  | nil => rfl
  | cons b word ih =>
    rw [List.mem_cons, not_or] at h
    rw [words, if_neg (Ne.symm h.1), ih h.2]

/-- A blank ends a word. -/
theorem words_append {word : List Byte} (h : blank ∉ word) (rest : List Byte) :
    words (word ++ blank :: rest) = word :: words rest := by
  induction word with
  | nil => rw [List.nil_append, words, if_pos rfl]
  | cons b word ih =>
    rw [List.mem_cons, not_or] at h
    rw [List.cons_append, words, if_neg (Ne.symm h.1), ih h.2]

theorem blank_not_mem_bytes {s : String} (h : ' ' ∉ s.toList) : blank ∉ Utf8.bytes s :=
  Utf8.octet_not_mem_bytes (by decide) h

/-- The last word of a command. -/
theorem words_bytes {word : String} (h : ' ' ∉ word.toList) :
    words (Utf8.bytes word) = [Utf8.bytes word] :=
  words_of_blank_free (blank_not_mem_bytes h)

/-- The first of several words of a command. -/
theorem words_bytes_append {word : String} (h : ' ' ∉ word.toList) (rest : String) :
    words (Utf8.bytes (word ++ " " ++ rest)) = Utf8.bytes word :: words (Utf8.bytes rest) := by
  have separator : Utf8.bytes " " = [blank] := by
    rw [Utf8.bytes_eq]
    decide
  rw [Utf8.bytes_append, Utf8.bytes_append, separator, List.append_assoc, List.singleton_append,
    words_append (blank_not_mem_bytes h)]

theorem blank_not_mem_hexText (n : Nat) : ' ' ∉ (Hex.text n).toList := fun mem =>
  Hex.forall_mem_text (P := (· ≠ ' ')) (by decide) (by decide) n ' ' mem rfl

theorem blank_not_mem_tapName {name : String} (h : IsTapName name) : ' ' ∉ name.toList := fun mem =>
  absurd (h ' ' mem).1 (by decide)

/-! ### Numbers -/

/-- **A number is read as it was written.** -/
theorem number?_text {limit n : Nat} (h : n < limit) :
    number? limit (Utf8.bytes (Hex.text n)) = some n := by
  have plain : Utf8.IsAscii ('0' :: 'x' :: Hex.digits n) := by
    have ascii := isAscii_hexText n
    rw [Hex.text, String.toList_ofList] at ascii
    exact ascii
  rw [number?, Hex.text, Utf8.bytes_of_ascii plain, Utf8.decode_octets plain]
  show (Numeral.readNatural 16 limit (Hex.digits n)).toOption = some n
  rw [Hex.readNatural_digits h]
  rfl

theorem number?_length : number? 0x100 (Utf8.bytes "32") = some 32 := by
  rw [Utf8.bytes_eq]
  decide

/-! ### The requests of a session -/

/-- The port takes a command for a request. -/
structure Understands (p : AdapterPort) (command : String) (request : PortRequest) : Prop where
  sendable : IsSendable command
  request : p.request? (Utf8.bytes command) = some request

variable (p : AdapterPort)

theorem understands_write (address : BusAddress) (data : Word) :
    p.Understands s!"riscv dmi_write {Hex.text address.toNat} {Hex.text data.toNat}"
      (.write address data) := by
  have command : s!"riscv dmi_write {Hex.text address.toNat} {Hex.text data.toNat}" =
      "riscv" ++ " " ++ ("dmi_write" ++ " " ++ (Hex.text address.toNat ++ " " ++ Hex.text data.toNat)) := by
    show "riscv dmi_write " ++ Hex.text address.toNat ++ " " ++ Hex.text data.toNat = _
    rw [show "riscv dmi_write " = "riscv" ++ " " ++ ("dmi_write" ++ " ") from by decide]
    simp only [String.append_assoc]
  have read_data : number? (1 <<< 32) (Utf8.bytes (Hex.text data.toNat)) = some data.toNat :=
    number?_text data.isLt
  rw [command]
  refine ⟨?_, ?_⟩
  · have operands := ((IsSendable.hexText address.toNat).append (t := " ") (by decide)).append
      (.hexText data.toNat)
    exact IsSendable.append (by decide) (.append (by decide) operands)
  · rw [request?, words_bytes_append (by decide), words_bytes_append (by decide),
      words_bytes_append (blank_not_mem_hexText _), words_bytes (blank_not_mem_hexText _)]
    dsimp only
    rw [if_pos ⟨rfl, rfl⟩, number?_text address.isLt, read_data]
    dsimp only
    rw [BitVec.ofNat_toNat, BitVec.ofNat_toNat]
    rfl

theorem understands_read (address : BusAddress) :
    p.Understands s!"riscv dmi_read {Hex.text address.toNat}" (.read address) := by
  have command : s!"riscv dmi_read {Hex.text address.toNat}" =
      "riscv" ++ " " ++ ("dmi_read" ++ " " ++ Hex.text address.toNat) := by
    show "riscv dmi_read " ++ Hex.text address.toNat = _
    rw [show "riscv dmi_read " = "riscv" ++ " " ++ ("dmi_read" ++ " ") from by decide]
    simp only [String.append_assoc]
  rw [command]
  refine ⟨?_, ?_⟩
  · exact IsSendable.append (by decide) (.append (by decide) (.hexText _))
  · rw [request?, words_bytes_append (by decide), words_bytes_append (by decide),
      words_bytes (blank_not_mem_hexText _)]
    dsimp only
    rw [if_pos ⟨rfl, rfl⟩, number?_text address.isLt, Option.map_some, BitVec.ofNat_toNat]
    rfl

theorem understands_reset : p.Understands "pathmove RESET IDLE" .reset := by
  have command : "pathmove RESET IDLE" = "pathmove" ++ " " ++ ("RESET" ++ " " ++ "IDLE") := by decide
  have other : Utf8.bytes "pathmove" ≠ Utf8.bytes "riscv" ∧ Utf8.bytes "pathmove" ≠ Utf8.bytes "irscan" := by
    rw [Utf8.bytes_eq, Utf8.bytes_eq, Utf8.bytes_eq]
    decide
  refine ⟨by decide, ?_⟩
  rw [request?, command, words_bytes_append (by decide), words_bytes_append (by decide),
    words_bytes (by decide)]
  dsimp only
  rw [if_neg (fun both => other.1 both.1), if_neg (fun both => other.2 both.1), if_pos ⟨rfl, rfl, rfl⟩]

variable {p} {tap : String} (named : IsTapName tap) (here : p.name = Utf8.bytes tap)

include named here

theorem understands_select (i : Instruction) :
    p.Understands (i.selectCommand tap) (.select i.opcode) := by
  have command : i.selectCommand tap = "irscan" ++ " " ++ (tap ++ " " ++ Hex.text i.opcode.toNat) := by
    show "irscan " ++ tap ++ " " ++ Hex.text i.opcode.toNat = _
    rw [show "irscan " = "irscan" ++ " " from by decide]
    simp only [String.append_assoc]
  have other : Utf8.bytes "irscan" ≠ Utf8.bytes "riscv" := by
    rw [Utf8.bytes_eq, Utf8.bytes_eq]
    decide
  rw [command]
  refine ⟨?_, ?_⟩
  · have name := (IsSendable.of_tapName named).append (t := " ") (by decide)
    exact IsSendable.append (by decide) (name.append (.hexText _))
  · rw [request?, words_bytes_append (by decide), words_bytes_append (blank_not_mem_tapName named),
      words_bytes (blank_not_mem_hexText _)]
    dsimp only
    rw [if_neg (fun both => other both.1), if_pos ⟨rfl, here.symm⟩, number?_text i.opcode.isLt,
      Option.map_some, BitVec.ofNat_toNat]
    rfl

theorem understands_shift {i : Instruction} (length : i.dataLength = 32) (value : Word) :
    p.Understands (i.shiftCommand tap value) (.shift value) := by
  have command : i.shiftCommand tap value =
      "drscan" ++ " " ++ (tap ++ " " ++ ("32" ++ " " ++ Hex.text value.toNat)) := by
    rw [Instruction.shiftCommand, length]
    show "drscan " ++ tap ++ " " ++ "32" ++ " " ++ Hex.text value.toNat = _
    rw [show "drscan " = "drscan" ++ " " from by decide]
    simp only [String.append_assoc]
  have other : Utf8.bytes "drscan" ≠ Utf8.bytes "riscv" := by
    rw [Utf8.bytes_eq, Utf8.bytes_eq]
    decide
  have read_value : number? (1 <<< 32) (Utf8.bytes (Hex.text value.toNat)) = some value.toNat :=
    number?_text value.isLt
  rw [command]
  refine ⟨?_, ?_⟩
  · have name := (IsSendable.of_tapName named).append (t := " ") (by decide)
    exact IsSendable.append (by decide) (name.append (.append (by decide) (.hexText _)))
  · rw [request?, words_bytes_append (by decide), words_bytes_append (blank_not_mem_tapName named),
      words_bytes_append (by decide), words_bytes (blank_not_mem_hexText _)]
    dsimp only
    rw [if_neg (fun both => other both.1), if_pos ⟨rfl, here.symm, number?_length⟩, read_value,
      Option.map_some, BitVec.ofNat_toNat]
    rfl

end AdapterPort

end HartDebug
