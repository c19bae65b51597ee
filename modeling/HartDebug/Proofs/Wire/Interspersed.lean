import HartDebug.Proofs.Wire.Pieces

/-!
# Telnet sequences among a reply

The other side of a console may negotiate at any time, also while it writes the prompt.  A reading up to a
marker does not notice: it returns what stands before the marker, and leaves what stands behind it, as if the
negotiation had not been there.

* `Telnet.Sequence` — the sequences that are negotiated with;
* `Telnet.Interspersed` — a text with sequences before some of its octets;
* `Connection.readUntil_of_interspersed` — **a reading is the same with sequences and without**.
-/

namespace HartDebug

namespace Telnet

/-- What is sent to negotiate: one of four verbs with an option, a verb that has none, or a subnegotiation
that needs no octet doubled. -/
inductive Sequence : List Byte → Prop where
  | option {verb : Byte} (first : 251 ≤ verb) (last : verb ≤ 254) (option : Byte) :
      Sequence [interpretAsCommand, verb, option]
  | verb {verb : Byte} (low : verb < subnegotiationBegin) : Sequence [interpretAsCommand, verb]
  | subnegotiation {payload : List Byte} (plain : interpretAsCommand ∉ payload) :
      Sequence (interpretAsCommand :: subnegotiationBegin :: (payload ++ closing))

/-- Octets that are a text with sequences before any of its octets, and none behind the last. -/
inductive Interspersed : List Byte → List Byte → Prop where
  | nil : Interspersed [] []
  | octet (b : Byte) {text octets : List Byte} (rest : Interspersed text octets) :
      Interspersed (b :: text) (b :: octets)
  | sequence {b : Byte} {sequence text octets : List Byte} (inserted : Sequence sequence)
      (rest : Interspersed (b :: text) octets) : Interspersed (b :: text) (sequence ++ octets)

/-- A sequence is a command as a whole. -/
theorem Sequence.command {sequence : List Byte} (h : Sequence sequence) : Command sequence := by
  cases h with
  | option first last option => exact .option (by simp [negotiatesOption, first, last]) option
  | @verb verb low =>
    have below : ¬ 251 ≤ verb := fun high => absurd (UInt8.le_trans high (UInt8.le_of_lt low)) (by decide)
    exact .bare (by simp [negotiatesOption, below]) (UInt8.ne_of_lt low)
  | subnegotiation plain => exact .subnegotiation fun inside => plain (inside.subset List.mem_cons_self)

/-- There need not be any sequence. -/
theorem Interspersed.refl (text : List Byte) : Interspersed text text := by
  induction text with
  | nil => exact .nil
  | cons b text ih => exact .octet b ih

/-- A text of no octets has no place for a sequence. -/
theorem Interspersed.of_nil {octets : List Byte} (h : Interspersed [] octets) : octets = [] := by
  cases h
  rfl

/-- Up to the last octet of the text, a text with sequences before its octets is spelled by them. -/
theorem Interspersed.spells {body octets : List Byte} {b : Byte} (h : Interspersed (body ++ [b]) octets)
    (plain : interpretAsCommand ∉ body) : ∃ front, octets = front ++ [b] ∧ Spells front body := by
  generalize whole : body ++ [b] = text at h
  induction h generalizing body with
  | nil => exact absurd whole (List.append_ne_nil_of_right_ne_nil body (List.cons_ne_nil b []))
  | octet first rest ih =>
    cases body with
    | nil =>
      cases whole
      exact ⟨[], by rw [rest.of_nil]; rfl, .nil⟩
    | cons b' body =>
      obtain ⟨rfl, rfl⟩ := List.cons.inj whole
      rw [List.mem_cons, not_or] at plain
      obtain ⟨front, rfl, spelled⟩ := ih plain.2 rfl
      exact ⟨b' :: front, rfl, .octet (Ne.symm plain.1) spelled⟩
  | sequence inserted rest ih =>
    obtain ⟨front, rfl, spelled⟩ := ih plain whole
    exact ⟨_ ++ front, (List.append_assoc _ _ _).symm, .command inserted.command spelled⟩

end Telnet

namespace Frame

variable {marker text after octets : List Byte}

/-- Behind a marker with sequences among the octets up to it, a reading has found what stands before it. -/
theorem read_of_interspersed (some_marker : marker ≠ []) {body : List Byte}
    (first : body.dropInfix? marker = some (text, after)) (plain : Telnet.interpretAsCommand ∉ body)
    (inserted : Telnet.Interspersed (text ++ marker) octets) (rest : List Byte) :
    read marker true {} (octets ++ rest) = (.complete text, rest) := by
  have some_octet : text ++ marker ≠ [] := List.append_ne_nil_of_right_ne_nil text some_marker
  obtain ⟨front, b, ends⟩ := (List.eq_nil_or_concat' (text ++ marker)).resolve_left some_octet
  rw [(dropInfix?_eq_some.1 first).1, ends] at plain
  simp only [List.mem_append, List.mem_singleton, not_or] at plain
  rw [ends] at inserted
  obtain ⟨octets, rfl, spelled⟩ := inserted.spells plain.1.1
  have found := first_of_dropInfix? first
  rw [ends] at found
  rw [List.append_assoc, List.singleton_append]
  exact read_of_spelled spelled (Ne.symm plain.1.2) found rest

end Frame

namespace Connection

/-- **A reading is the same with sequences and without.**  Wherever among the octets up to the end of the
first marker they stand, also within the marker, and however the octets come in, the reading returns what
stands before the marker and leaves what stands behind it.  An empty marker leaves no place for them. -/
theorem readUntil_of_interspersed {d marker text after octets : List Byte}
    (plain : Telnet.interpretAsCommand ∉ d) (first : d.dropInfix? marker = some (text, after))
    (inserted : Telnet.Interspersed (text ++ marker) octets) {c c' : Connection ScriptedStream}
    (brings : c.Brings (octets ++ after)) (alone : c'.Brings d) :
    ∃ outcome rest e e', (readUntil marker true).exec c = (outcome, e) ∧ e.Brings rest ∧
      (readUntil marker true).exec c' = (outcome, e') ∧ e'.Brings rest ∧
      (marker ≠ [] → outcome = .ok text ∧ rest = after) := by
  obtain ⟨e, ran, left⟩ := brings.readUntil marker true
  obtain ⟨e', ran', left'⟩ := alone.readUntil marker true
  by_cases some_marker : marker = []
  · subst some_marker
    obtain ⟨split, shortest⟩ := Frame.dropInfix?_eq_some.1 first
    obtain rfl : text = [] := List.length_eq_zero_iff.1 (Nat.le_zero.1 (shortest [] d rfl))
    rw [inserted.of_nil] at ran left
    rw [split] at ran' left'
    exact ⟨_, _, e, e', ran, left, ran', left', fun some => absurd rfl some⟩
  · have found := Frame.read_of_interspersed some_marker first plain inserted after
    have found' := Frame.read_of_interspersed some_marker first plain (.refl (text ++ marker)) after
    rw [found] at ran left
    rw [(Frame.dropInfix?_eq_some.1 first).1, found'] at ran' left'
    exact ⟨.ok text, after, e, e', ran, left, ran', left', fun _ => ⟨rfl, rfl⟩⟩

/-- A sequence of each shape, the last of them within the prompt. -/
theorem readUntil_of_interspersed_prompt :
    let d : List Byte := [0x61, 0x3e, 0x20, 0x62]
    let octets : List Byte := [255, 251, 1, 0x61, 255, 241, 0x3e, 255, 250, 0x18, 1, 255, 240, 0x20]
    let c : Connection ScriptedStream := { stream := { incoming := [.octets octets, .octets [0x62]] } }
    let c' : Connection ScriptedStream := { stream := { incoming := [.octets d] } }
    Telnet.interpretAsCommand ∉ d ∧ d.dropInfix? [0x3e, 0x20] = some ([0x61], [0x62]) ∧
      Telnet.Interspersed [0x61, 0x3e, 0x20] octets ∧ c.Brings (octets ++ [0x62]) ∧ c'.Brings d ∧
      ((readUntil [0x3e, 0x20] true).exec c).1 = .ok [0x61] := by
  intro d octets c c'
  have plain : Telnet.interpretAsCommand ∉ d := by decide
  have first : d.dropInfix? [0x3e, 0x20] = some ([0x61], [0x62]) := by decide
  have will : Telnet.Sequence [255, 251, 1] := .option (by decide) (by decide) 1
  have idle : Telnet.Sequence [255, 241] := .verb (by decide)
  have payload : Telnet.interpretAsCommand ∉ ([0x18, 1] : List Byte) := by decide
  have inserted : Telnet.Interspersed [0x61, 0x3e, 0x20] octets :=
    .sequence will (.octet 0x61 (.sequence idle (.octet 0x3e (.sequence (.subnegotiation payload)
      (.octet 0x20 .nil)))))
  have brings : c.Brings (octets ++ [0x62]) := ⟨[octets, [0x62]], rfl, by decide, rfl⟩
  have alone : c'.Brings d := ⟨[d], rfl, by decide, rfl⟩
  obtain ⟨outcome, rest, e, e', ran, -, -, -, found⟩ :=
    readUntil_of_interspersed plain first inserted brings alone
  obtain ⟨rfl, -⟩ := found (List.cons_ne_nil _ _)
  exact ⟨plain, first, inserted, brings, alone, congrArg Prod.fst ran⟩

end Connection

end HartDebug
