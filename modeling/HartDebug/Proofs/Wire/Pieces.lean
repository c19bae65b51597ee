import HartDebug.Proofs.Wire.FirstMarker

/-!
# Readings of octets that come in pieces

A stream brings its octets in pieces, and a marker or a Telnet command may begin in one piece and end in
another.  What is read does not depend on where the pieces were cut: each reading goes to the first marker
among the octets that were left by the readings before it, and finds that there is none only when the stream
has ended.

* `Connection.Brings` — a connection on which octets are left to be read, and then no more;
* `Connection.Brings.readUntil` — **one reading**, in terms of the octets alone;
* `Connection.readEach`, `FoundEach` — one reading after another, and how they end;
* `Connection.readings_of_pieces` — **what readings find depends on the octets only**.
-/

namespace HartDebug

/-- How readings up to one marker after another end on octets after which nothing comes, and which octets are
left in the end.  A reading that finds no marker leaves none to the readings after it. -/
inductive FoundEach :
    List Byte → List (List Byte × Bool) → List (Except DebugError (List Byte)) → List Byte → Prop where
  | none {octets : List Byte} : FoundEach octets [] [] octets
  | next {marker octets between rest : List Byte} {telnet : Bool} {calls : List (List Byte × Bool)}
      {outcome : Except DebugError (List Byte)} {outcomes : List (Except DebugError (List Byte))}
      (found : Found marker telnet octets outcome between) (later : FoundEach between calls outcomes rest) :
      FoundEach octets ((marker, telnet) :: calls) (outcome :: outcomes) rest

/-- Octets and markers tell how the readings end. -/
theorem FoundEach.unique {octets rest rest' : List Byte} {calls : List (List Byte × Bool)}
    {outcomes outcomes' : List (Except DebugError (List Byte))} (markers : ∀ call ∈ calls, call.1 ≠ [])
    (h : FoundEach octets calls outcomes rest) (h' : FoundEach octets calls outcomes' rest') :
    outcomes = outcomes' ∧ rest = rest' := by
  induction h generalizing outcomes' rest' with
  | none =>
    cases h'
    exact ⟨rfl, rfl⟩
  | next found later ih =>
    cases h' with
    | next found' later' =>
      rw [List.forall_mem_cons] at markers
      obtain ⟨rfl, rfl⟩ := found.read markers.1
      obtain ⟨rfl, rfl⟩ := found'.read markers.1
      obtain ⟨rfl, rfl⟩ := ih markers.2 later'
      exact ⟨rfl, rfl⟩

namespace Connection

/-- Read up to one marker after another, each with its outcome.  With each marker stands whether Telnet
commands are left out. -/
def readEach {σ : Type} [ByteStream σ] :
    List (List Byte × Bool) → Action DebugError (Connection σ) (List (Except DebugError (List Byte)))
  | [] => pure []
  | (marker, telnet) :: calls => do
    let outcome ← (readUntil marker telnet).attempt
    let outcomes ← readEach calls
    pure (outcome :: outcomes)

/-- Octets are left to be read on a connection, and no more: some have come already, and the others come in
pieces of any size, none of them empty, before the stream ends. -/
def Brings (octets : List Byte) (c : Connection ScriptedStream) : Prop :=
  ∃ pieces : List (List Byte), c.stream.incoming = pieces.map .octets ∧ [] ∉ pieces ∧
    c.buffer ++ pieces.flatten = octets

namespace Brings

variable {c : Connection ScriptedStream} {octets : List Byte}

/-- The next octet is the first of those that are left. -/
theorem nextByte {b : Byte} {rest : List Byte} (h : c.Brings (b :: rest)) :
    ∃ c', Connection.nextByte.exec c = (.ok b, c') ∧ c'.Brings rest := by
  obtain ⟨pieces, script, some_octets, left⟩ := h
  unfold Connection.nextByte
  rw [Action.exec_bind_ok (Action.exec_get c)]
  cases buffered : c.buffer with
  | cons first more =>
    rw [buffered, List.cons_append] at left
    obtain ⟨rfl, rest_eq⟩ := List.cons.inj left
    exact ⟨{ c with buffer := more }, rfl, pieces, script, some_octets, rest_eq⟩
  | nil =>
    rw [buffered, List.nil_append] at left
    cases pieces with
    | nil => cases left
    | cons piece pieces =>
      rw [List.mem_cons, not_or] at some_octets
      obtain ⟨first, piece, rfl⟩ := List.exists_cons_of_ne_nil (Ne.symm some_octets.1)
      rw [List.flatten_cons, List.cons_append] at left
      obtain ⟨rfl, rfl⟩ := List.cons.inj left
      have received : ByteStream.receive c.stream =
          (.ok (first :: piece), { c.stream with incoming := pieces.map .octets }) := by
        show c.stream.receive = _
        rw [ScriptedStream.receive, script]
        rfl
      dsimp only
      rw [received]
      exact ⟨_, rfl, pieces, rfl, some_octets.2, rfl⟩

/-- When nothing is left, the stream has ended and stays so. -/
theorem ended (h : c.Brings []) :
    Connection.nextByte.exec c = (.error (.transport .receive .ended), c) := by
  obtain ⟨stream, buffer, sent⟩ := c
  obtain ⟨pieces, script, some_octets, left⟩ := h
  obtain ⟨rfl, nothing⟩ := List.append_eq_nil_iff.1 left
  obtain rfl : pieces = [] := by
    cases pieces with
    | nil => rfl
    | cons piece pieces =>
      rw [List.flatten_cons, List.append_eq_nil_iff] at nothing
      rw [nothing.1] at some_octets
      exact absurd List.mem_cons_self some_octets
  have received : ByteStream.receive stream = (.ok [], stream) := by
    show stream.receive = _
    rw [ScriptedStream.receive, show stream.incoming = [] from script]
  unfold Connection.nextByte
  rw [Action.exec_bind_ok (Action.exec_get _)]
  dsimp only
  rw [received]
  rfl

/-- **A reading over a connection is a reading over the octets that are left on it**, also where it finds
that there are no more.  The induction is on those octets. -/
theorem readUntil (h : c.Brings octets) (marker : List Byte) (telnet : Bool) :
    ∃ c', (Connection.readUntil marker telnet).exec c =
        ((Frame.read marker telnet {} octets).1.outcome, c') ∧
      c'.Brings (Frame.read marker telnet {} octets).2 := by
  suffices from_here : ∀ f, ∃ c',
      Action.exec (readFrame marker telnet f) c = ((Frame.read marker telnet f octets).1.outcome, c') ∧
        c'.Brings (Frame.read marker telnet f octets).2 by
    rw [exec_readUntil]
    exact from_here {}
  induction octets generalizing c with
  | nil =>
    intro f
    rw [exec_readFrame, h.ended]
    exact ⟨c, rfl, h⟩
  | cons b octets ih =>
    intro f
    obtain ⟨c', took, after⟩ := h.nextByte
    rw [exec_readFrame, took, Frame.read]
    dsimp only
    cases f.step marker telnet b with
    | complete text => exact ⟨c', rfl, after⟩
    | unfinished f' => exact ih after f'

end Brings

/-- **What readings find depends on the octets only**, and not on the pieces in which they come.  Each reading
returns what stands before the first marker among the octets that are left, and leaves what stands behind it.
If there is no marker it takes everything and fails as the stream has ended.  Where Telnet commands are left
out the same is true of the text that the octets spell. -/
theorem readings_of_pieces {calls : List (List Byte × Bool)} (markers : ∀ call ∈ calls, call.1 ≠ [])
    (octets : List Byte) :
    ∃ outcomes rest, FoundEach octets calls outcomes rest ∧
      ∀ c : Connection ScriptedStream, c.Brings octets →
        ∃ c', (readEach calls).exec c = (.ok outcomes, c') ∧ c'.Brings rest := by
  induction calls generalizing octets with
  | nil => exact ⟨[], octets, .none, fun c brings => ⟨c, rfl, brings⟩⟩
  | cons call calls ih =>
    obtain ⟨marker, telnet⟩ := call
    rw [List.forall_mem_cons] at markers
    have found := Frame.found_of_read markers.1 telnet octets
    obtain ⟨outcomes, rest, later, run⟩ := ih markers.2 (Frame.read marker telnet {} octets).2
    refine ⟨_ :: outcomes, rest, .next found later, fun c brings => ?_⟩
    obtain ⟨c₁, ran, between⟩ := brings.readUntil marker telnet
    obtain ⟨c₂, ran', left⟩ := run c₁ between
    refine ⟨c₂, ?_, left⟩
    have attempted : (Action.attempt (readUntil marker telnet) : Action DebugError _ _).exec c =
        (.ok (Frame.read marker telnet {} octets).1.outcome, c₁) := by
      rw [Action.exec_attempt, ran]
    rw [readEach, Action.exec_bind_ok attempted, Action.exec_bind_ok ran']
    rfl

/-- Two cuts of the same octets, one of them through a marker, an option and a subnegotiation. -/
theorem readings_of_pieces_cut_anywhere :
    let calls : List (List Byte × Bool) := [([0x3e, 0x20], true), ([0x0a], false), ([0x0a], false)]
    let octets : List Byte := [0x61, 255, 251, 1, 0x3e, 255, 250, 0x18, 255, 240, 0x20, 0x62, 0x0a, 0x63]
    let cuts : List (List Byte) :=
      [[0x61, 255], [251], [1, 0x3e, 255, 250, 0x18, 255], [240, 0x20, 0x62], [0x0a, 0x63]]
    let c : Connection ScriptedStream := { stream := { incoming := cuts.map .octets } }
    let d : Connection ScriptedStream := { stream := { incoming := [.octets octets] } }
    let outcomes : List (Except DebugError (List Byte)) :=
      [.ok [0x61], .ok [0x62], .error (.transport .receive .ended)]
    (∀ call ∈ calls, call.1 ≠ []) ∧ c.Brings octets ∧ d.Brings octets ∧
      ((readEach calls).exec c).1 = .ok outcomes ∧ ((readEach calls).exec d).1 = .ok outcomes := by
  intro calls octets cuts c d outcomes
  have markers : ∀ call ∈ calls, call.1 ≠ [] := by decide
  have brings : c.Brings octets := ⟨cuts, rfl, by decide, rfl⟩
  have brings' : d.Brings octets := ⟨[octets], rfl, by decide, rfl⟩
  have whole : ¬ Telnet.closing <:+: ([0x18] : List Byte) := by decide
  have spelled : Telnet.Spells (octets.take 10) [0x61, 0x3e] :=
    .octet (by decide) (.command (.option rfl 1) (.octet (by decide)
      (Telnet.Command.subnegotiation whole).spells))
  have found : FoundEach octets calls outcomes [] :=
    .next (.among spelled (b := 0x20) (by decide) rfl) (.next (.plain rfl) (.next (.absent rfl) .none))
  obtain ⟨outcomes', rest, found', run⟩ := readings_of_pieces markers octets
  obtain ⟨rfl, rfl⟩ := found.unique markers found'
  obtain ⟨c', ran, -⟩ := run c brings
  obtain ⟨d', ran', -⟩ := run d brings'
  exact ⟨markers, brings, brings', congrArg Prod.fst ran, congrArg Prod.fst ran'⟩

end Connection

end HartDebug
