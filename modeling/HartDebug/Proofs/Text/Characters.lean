import HartDebug.Proofs.Text.Octets

/-!
# Texts read back from their octets

The octets of a character are its bits in groups of six, with the first group in an octet that tells how many
follow.  The reader puts the groups together again, so a text of whatever characters is read as it was written.

* `Utf8.decodeAfter_owed` — the octets that are owed complete a character;
* `Utf8.decodeAfter_encoded` — **one character is read back**, whatever comes behind it;
* `Utf8.decode_bytes`, `Utf8.text_bytes` — **a text is read back**.
-/

namespace HartDebug.Utf8

/-- An octet that continues a character, with its six bits. -/
def continuation (d : Nat) : Byte :=
  UInt8.ofNat (d + 128)

theorem toNat_continuation {d : Nat} (small : d < 64) : (continuation d).toNat = d + 128 := by
  rw [continuation, UInt8.toNat_ofNat']
  omega

/-- The number that groups of six bits make up behind others. -/
def gathered (bits : Nat) (groups : List Nat) : Nat :=
  groups.foldl (fun n d => n * 0x40 + d) bits

/-- **The octets that are owed complete a character.**  Only the first of them may be bound more closely, so
the induction is on those behind it. -/
theorem decodeAfter_owed {d : Nat} {low high : Byte} (inside : low ≤ continuation d ∧ continuation d ≤ high)
    (groups : List Nat) (small : ∀ e ∈ d :: groups, e < 64) (bits : Nat) (rest : List Byte) :
    decodeAfter (some ⟨groups.length + 1, low, high, bits⟩) ((d :: groups).map continuation ++ rest) =
      Char.ofNat (gathered bits (d :: groups)) :: decodeAfter none rest := by
  have value := toNat_continuation (small d List.mem_cons_self)
  induction groups generalizing d low high bits with
  | nil =>
    rw [List.map_cons, List.map_nil, List.singleton_append, decodeAfter, step, if_pos inside, value,
      Nat.add_sub_cancel]
    rfl
  | cons e groups ih =>
    have next : e < 64 := small e (by simp)
    have value' := toNat_continuation next
    have inside' : (0x80 : Byte) ≤ continuation e ∧ continuation e ≤ (0xbf : Byte) := by
      rw [UInt8.le_iff_toNat_le, UInt8.le_iff_toNat_le, value']
      have bounds : (0x80 : Byte).toNat = 0x80 ∧ (0xbf : Byte).toNat = 0xbf := ⟨rfl, rfl⟩
      omega
    have others := ih inside' (fun f mem => small f (List.mem_cons_of_mem d mem)) (bits * 0x40 + d) value'
    rw [List.map_cons, List.cons_append, decodeAfter, step, if_pos inside, value, Nat.add_sub_cancel]
    exact others

theorem toNat_ofNat {n : Nat} (small : n < 256) : (UInt8.ofNat n : Byte).toNat = n := by
  rw [UInt8.toNat_ofNat']
  omega

/-- The first octet of a character begins it, and the octets behind complete it. -/
theorem decodeAfter_begun {b low high : Byte} {bits : Nat} (d : Nat) (groups : List Nat)
    (begins : lead b = .begun ⟨groups.length + 1, low, high, bits⟩)
    (inside : low.toNat ≤ d + 128 ∧ d + 128 ≤ high.toNat) (small : ∀ e ∈ d :: groups, e < 64)
    (rest : List Byte) :
    decodeAfter none (b :: ((d :: groups).map continuation ++ rest)) =
      Char.ofNat (gathered bits (d :: groups)) :: decodeAfter none rest := by
  have inside' : low ≤ continuation d ∧ continuation d ≤ high := by
    rw [UInt8.le_iff_toNat_le, UInt8.le_iff_toNat_le, toNat_continuation (small d List.mem_cons_self)]
    exact inside
  rw [decodeAfter, step, start, begins]
  exact decodeAfter_owed inside' groups small bits rest

/-! ### First octets -/

section

variable {v : Nat}

/-- The first octet of a character of two. -/
theorem lead_of_two (large : 0x7f < v) (small : v ≤ 0x7ff) :
    ∃ low high, lead (UInt8.ofNat (v / 64 % 32 + 192)) = .begun ⟨1, low, high, v / 64⟩ ∧
      low.toNat ≤ v % 64 + 128 ∧ v % 64 + 128 ≤ high.toNat := by
  have value : (UInt8.ofNat (v / 64 % 32 + 192)).toNat = v / 64 + 0xc0 := by
    rw [toNat_ofNat (by omega)]
    omega
  have bounds : (0x80 : Byte).toNat = 0x80 ∧ (0xbf : Byte).toNat = 0xbf := ⟨rfl, rfl⟩
  rw [lead, value, if_neg (by omega), if_neg (by omega), if_pos (by omega), Nat.add_sub_cancel]
  exact ⟨0x80, 0xbf, rfl, by omega, by omega⟩

/-- The first octet of a character of three, of which the second is bound so that no shorter form would do and
no surrogate comes out. -/
theorem lead_of_three (large : 0x7ff < v) (small : v ≤ 0xffff) (valid : v < 0xd800 ∨ 0xdfff < v) :
    ∃ low high, lead (UInt8.ofNat (v / 4096 % 16 + 224)) = .begun ⟨2, low, high, v / 4096⟩ ∧
      low.toNat ≤ v / 64 % 64 + 128 ∧ v / 64 % 64 + 128 ≤ high.toNat := by
  have value : (UInt8.ofNat (v / 4096 % 16 + 224)).toNat = v / 4096 + 0xe0 := by
    rw [toNat_ofNat (by omega)]
    omega
  have bounds : (0x80 : Byte).toNat = 0x80 ∧ (0x9f : Byte).toNat = 0x9f ∧ (0xa0 : Byte).toNat = 0xa0 ∧
    (0xbf : Byte).toNat = 0xbf := ⟨rfl, rfl, rfl, rfl⟩
  rw [lead, value, if_neg (by omega), if_neg (by omega), if_neg (by omega)]
  by_cases first : v / 4096 = 0
  · rw [if_pos (by omega), first]
    exact ⟨0xa0, 0xbf, rfl, by omega, by omega⟩
  rw [if_neg (by omega)]
  by_cases surrogates : v / 4096 = 0xd
  · rw [if_pos (by omega), surrogates]
    exact ⟨0x80, 0x9f, rfl, by omega, by omega⟩
  rw [if_neg (by omega), if_pos (by omega), Nat.add_sub_cancel]
  exact ⟨0x80, 0xbf, rfl, by omega, by omega⟩

/-- The first octet of a character of four, of which the second is bound so that no shorter form would do and
the last code point is not passed. -/
theorem lead_of_four (large : 0xffff < v) (valid : v < 0x110000) :
    ∃ low high, lead (UInt8.ofNat (v / 262144 % 8 + 240)) = .begun ⟨3, low, high, v / 262144⟩ ∧
      low.toNat ≤ v / 4096 % 64 + 128 ∧ v / 4096 % 64 + 128 ≤ high.toNat := by
  have value : (UInt8.ofNat (v / 262144 % 8 + 240)).toNat = v / 262144 + 0xf0 := by
    rw [toNat_ofNat (by omega)]
    omega
  have bounds : (0x80 : Byte).toNat = 0x80 ∧ (0x8f : Byte).toNat = 0x8f ∧ (0x90 : Byte).toNat = 0x90 ∧
    (0xbf : Byte).toNat = 0xbf := ⟨rfl, rfl, rfl, rfl⟩
  rw [lead, value, if_neg (by omega), if_neg (by omega), if_neg (by omega), if_neg (by omega),
    if_neg (by omega), if_neg (by omega)]
  by_cases first : v / 262144 = 0
  · rw [if_pos (by omega), first]
    exact ⟨0x90, 0xbf, rfl, by omega, by omega⟩
  rw [if_neg (by omega)]
  by_cases last : v / 262144 = 4
  · rw [if_neg (by omega), if_pos (by omega), last]
    exact ⟨0x80, 0x8f, rfl, by omega, by omega⟩
  rw [if_pos (by omega), Nat.add_sub_cancel]
  exact ⟨0x80, 0xbf, rfl, by omega, by omega⟩

end

/-! ### Characters and texts -/

/-- **One character is read back**, whatever comes behind it. -/
theorem decodeAfter_encoded (c : Char) (rest : List Byte) :
    decodeAfter none (String.utf8EncodeChar c ++ rest) = c :: decodeAfter none rest := by
  have valid : c.toNat < 0xd800 ∨ 0xdfff < c.toNat ∧ c.toNat < 0x110000 := c.valid
  have gather {bits groups} (same : gathered bits groups = c.toNat) : Char.ofNat (gathered bits groups) = c := by
    rw [same, Char.ofNat_toNat]
  rw [String.utf8EncodeChar, show c.val.toNat = c.toNat from rfl]
  split
  · have whole : lead (UInt8.ofNat c.toNat) = .whole c := by
      rw [lead, toNat_ofNat (by omega), if_pos (by omega), Char.ofNat_toNat]
    rw [List.singleton_append, decodeAfter, step, start, whole]
    rfl
  split
  · obtain ⟨low, high, begins, inside⟩ := lead_of_two (v := c.toNat) (by omega) (by omega)
    have small : ∀ e ∈ [c.toNat % 64], e < 64 := by
      simp only [List.mem_singleton, forall_eq]
      omega
    refine (decodeAfter_begun _ [] begins inside small rest).trans ?_
    rw [gather]
    simp only [gathered, List.foldl_cons, List.foldl_nil]
    omega
  split
  · obtain ⟨low, high, begins, inside⟩ := lead_of_three (v := c.toNat) (by omega) (by omega) (by omega)
    have small : ∀ e ∈ [c.toNat / 64 % 64, c.toNat % 64], e < 64 := by
      simp only [List.mem_cons, List.not_mem_nil, or_false, forall_eq_or_imp, forall_eq]
      omega
    refine (decodeAfter_begun _ [c.toNat % 64] begins inside small rest).trans ?_
    rw [gather]
    simp only [gathered, List.foldl_cons, List.foldl_nil]
    omega
  · obtain ⟨low, high, begins, inside⟩ := lead_of_four (v := c.toNat) (by omega) (by omega)
    have small : ∀ e ∈ [c.toNat / 4096 % 64, c.toNat / 64 % 64, c.toNat % 64], e < 64 := by
      simp only [List.mem_cons, List.not_mem_nil, or_false, forall_eq_or_imp, forall_eq]
      omega
    refine (decodeAfter_begun _ [c.toNat / 64 % 64, c.toNat % 64] begins inside small rest).trans ?_
    rw [gather]
    simp only [gathered, List.foldl_cons, List.foldl_nil]
    omega

/-- A text is read back, character by character. -/
theorem decode_bytes (s : String) : decode (bytes s) = s.toList := by
  rw [bytes_eq, decode]
  induction s.toList with
  | nil => rfl
  | cons c text ih => rw [List.flatMap_cons, decodeAfter_encoded, ih]

/-- **A text is read back.** -/
theorem text_bytes (s : String) : text (bytes s) = s := by
  rw [text, decode_bytes, String.ofList_toList]

end HartDebug.Utf8
