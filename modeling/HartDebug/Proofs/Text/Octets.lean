import HartDebug.Text.Utf8

/-!
# Text as octets

A text crosses a wire as the octets of its characters.  Octets below 128 stand for themselves, in both
directions, and an octet of any other character is at least 128 and never 255: so no end mark, blank or
Telnet command can hide in the octets of a text that does not hold it as a character.

* `Utf8.bytes_eq` — the octets of a text, character by character;
* `Utf8.mem_bytes` — **what an octet of a text can be**;
* `Utf8.bytes_of_ascii`, `Utf8.decode_octets` — plain characters become octets and are read back.
-/

namespace HartDebug.Utf8

/-- The octets of a text are those of its characters, one after another. -/
theorem bytes_eq (s : String) : bytes s = s.toList.flatMap String.utf8EncodeChar := by
  rw [bytes_eq_data, ← String.utf8Encode_toList, List.utf8Encode, List.toList_data_toByteArray]

theorem bytes_append (s t : String) : bytes (s ++ t) = bytes s ++ bytes t := by
  rw [bytes_eq, bytes_eq, bytes_eq, String.toList_append, List.flatMap_append]

/-! ### Plain characters -/

/-- A text of characters that are octets by themselves. -/
def IsAscii (text : List Char) : Prop :=
  ∀ c ∈ text, c.toNat < 0x80

instance (text : List Char) : Decidable (IsAscii text) :=
  List.decidableBAll _ text

/-- Letters and digits are plain, and above the blanks. -/
theorem toNat_of_isAlphanum {c : Char} (h : c.isAlphanum = true) : 0x30 ≤ c.toNat ∧ c.toNat < 0x7b := by
  have range : ((decide (c.val ≥ 'A'.val ∧ c.val ≤ 'Z'.val) || (c.val ≥ 'a'.val && c.val ≤ 'z'.val)) ||
      (c.val ≥ '0'.val && c.val ≤ '9'.val)) = true := h
  simp only [Bool.or_eq_true, Bool.and_eq_true, decide_eq_true_eq, UInt32.le_iff_toNat_le,
    ge_iff_le] at range
  have ends : 'A'.val.toNat = 0x41 ∧ 'Z'.val.toNat = 0x5a ∧ 'a'.val.toNat = 0x61 ∧
      'z'.val.toNat = 0x7a ∧ '0'.val.toNat = 0x30 ∧ '9'.val.toNat = 0x39 := ⟨rfl, rfl, rfl, rfl, rfl, rfl⟩
  show 0x30 ≤ c.val.toNat ∧ c.val.toNat < 0x7b
  omega

/-- The octet of a plain character. -/
def octet (c : Char) : Byte :=
  UInt8.ofNat c.toNat

theorem toNat_octet {c : Char} (h : c.toNat < 0x80) : (octet c).toNat = c.toNat := by
  rw [octet, UInt8.toNat_ofNat']
  exact Nat.mod_eq_of_lt (by omega)

theorem octet_injective {c d : Char} (hc : c.toNat < 0x80) (hd : d.toNat < 0x80)
    (h : octet c = octet d) : c = d := by
  have same := congrArg UInt8.toNat h
  rw [toNat_octet hc, toNat_octet hd] at same
  exact Char.toNat_inj.1 same

theorem utf8EncodeChar_of_ascii {c : Char} (h : c.toNat < 0x80) : String.utf8EncodeChar c = [octet c] := by
  have small : c.val.toNat ≤ 0x7f := Nat.le_of_lt_succ h
  rw [String.utf8EncodeChar]
  exact if_pos small

/-- **What an octet of a character can be**: the character itself, or one of several octets that are
neither plain nor the beginning of a Telnet command. -/
theorem mem_utf8EncodeChar {c : Char} {b : Byte} (h : b ∈ String.utf8EncodeChar c) :
    (c.toNat < 0x80 ∧ b = octet c) ∨ (0x80 ≤ b.toNat ∧ b.toNat < 0xff) := by
  by_cases plain : c.toNat < 0x80
  · rw [utf8EncodeChar_of_ascii plain, List.mem_singleton] at h
    exact .inl ⟨plain, h⟩
  · right
    have large : ¬ c.val.toNat ≤ 0x7f := fun small => plain (Nat.lt_succ_of_le small)
    rw [String.utf8EncodeChar, if_neg large] at h
    split at h
    · simp only [List.mem_cons, List.not_mem_nil, or_false] at h
      rcases h with rfl | rfl <;> rw [UInt8.toNat_ofNat'] <;> omega
    · split at h
      · simp only [List.mem_cons, List.not_mem_nil, or_false] at h
        rcases h with rfl | rfl | rfl <;> rw [UInt8.toNat_ofNat'] <;> omega
      · simp only [List.mem_cons, List.not_mem_nil, or_false] at h
        rcases h with rfl | rfl | rfl | rfl <;> rw [UInt8.toNat_ofNat'] <;> omega

/-- **What an octet of a text can be.** -/
theorem mem_bytes {s : String} {b : Byte} (h : b ∈ bytes s) :
    (∃ c ∈ s.toList, c.toNat < 0x80 ∧ b = octet c) ∨ (0x80 ≤ b.toNat ∧ b.toNat < 0xff) := by
  rw [bytes_eq, List.mem_flatMap] at h
  obtain ⟨c, mem, inside⟩ := h
  rcases mem_utf8EncodeChar inside with plain | large
  · exact .inl ⟨c, mem, plain⟩
  · exact .inr large

/-- A plain character that is not in a text is not among its octets. -/
theorem octet_not_mem_bytes {s : String} {c : Char} (hc : c.toNat < 0x80) (absent : c ∉ s.toList) :
    octet c ∉ bytes s := by
  intro mem
  rcases mem_bytes mem with ⟨d, inside, plain, same⟩ | ⟨large, -⟩
  · rw [octet_injective hc plain same] at absent
    exact absent inside
  · rw [toNat_octet hc] at large
    omega

/-- No text holds the octet 255. -/
theorem max_not_mem_bytes (s : String) : 0xff ∉ bytes s := by
  intro mem
  rcases mem_bytes mem with ⟨c, -, plain, same⟩ | ⟨-, small⟩
  · have value := toNat_octet plain
    rw [← same] at value
    rw [← value] at plain
    exact absurd plain (by decide)
  · exact absurd small (by decide)

/-- A plain text is sent as one octet for each character. -/
theorem bytes_of_ascii {text : List Char} (h : IsAscii text) :
    bytes (String.ofList text) = text.map octet := by
  rw [bytes_eq, String.toList_ofList]
  induction text with
  | nil => rfl
  | cons c text ih =>
    have rest := ih fun d mem => h d (List.mem_cons_of_mem c mem)
    rw [List.flatMap_cons, List.map_cons, utf8EncodeChar_of_ascii (h c List.mem_cons_self), rest]
    rfl

/-- **The octets of a plain text are read back.** -/
theorem decode_octets {text : List Char} (h : IsAscii text) : decode (text.map octet) = text := by
  induction text with
  | nil => rfl
  | cons c text ih =>
    have plain := h c List.mem_cons_self
    have rest := ih fun d mem => h d (List.mem_cons_of_mem c mem)
    have whole : step none (octet c) = ([c], none) := by
      rw [step, start, lead, toNat_octet plain, if_pos plain, Char.ofNat_toNat]
    rw [decode] at rest ⊢
    rw [List.map_cons, decodeAfter, whole]
    dsimp only
    rw [rest]
    rfl

end HartDebug.Utf8
