import HartDebug.Proofs.Wire.Pieces

/-!
# Doubled octets

Telnet has the octet 255 sent twice where it is meant as data, among the text as within a subnegotiation.
The machine takes no notice of that.  To it a doubled octet among the text is a command, and nothing of it
is left; within a subnegotiation it may be what the subnegotiation is closed with.

* `Telnet.doubled` — data as it is sent;
* `Telnet.kept`, `Telnet.leaked` — what is found of data among the text, and of what a subnegotiation carries;
* `Telnet.spells_doubled`, `Telnet.spells_subnegotiation` — **what the machine finds**, whatever was doubled;
* `Connection.DroppedExactly`, `Connection.ReadAs` — octets of which a reading notices nothing, and octets that
  are a text to it;
* `Connection.droppedExactly_iff`, `Connection.readAs_of_spelled` — both in terms of what the octets spell;
* `Connection.readings_of_doubled` — readings of data and of subnegotiations.
-/

namespace HartDebug

namespace Telnet

/-- Data as it is sent, with each octet 255 in it twice. -/
def doubled (data : List Byte) : List Byte :=
  data.flatMap fun b => if b = interpretAsCommand then [b, b] else [b]

/-- A subnegotiation that carries some octets as they are. -/
def subnegotiation (payload : List Byte) : List Byte :=
  interpretAsCommand :: subnegotiationBegin :: (payload ++ closing)

/-- What is found of doubled data among the text. -/
def kept (data : List Byte) : List Byte :=
  data.filter fun b => b ≠ interpretAsCommand

/-- What is found of data that a subnegotiation carries doubled. -/
def leaked (data : List Byte) : List Byte :=
  match data.dropInfix? closing with
  | some (_, behind) => kept behind
  | none => []

variable {data : List Byte}

theorem doubled_cons (b : Byte) (data : List Byte) :
    doubled (b :: data) = (if b = interpretAsCommand then [b, b] else [b]) ++ doubled data :=
  List.flatMap_cons

theorem doubled_append (front behind : List Byte) :
    doubled (front ++ behind) = doubled front ++ doubled behind :=
  List.flatMap_append

/-- Data arrives as it was only where nothing had to be doubled. -/
theorem kept_eq_self : kept data = data ↔ interpretAsCommand ∉ data := by
  rw [kept, List.filter_eq_self]
  exact ⟨fun all inside => absurd rfl (of_decide_eq_true (all _ inside)),
    fun outside b inside => decide_eq_true fun same => outside (same ▸ inside)⟩

/-- Nothing arrives of data that is nothing but octets that had to be doubled. -/
theorem kept_eq_nil : kept data = [] ↔ ∀ b ∈ data, b = interpretAsCommand := by
  rw [kept, List.filter_eq_nil_iff]
  simp

/-! ## What the machine finds -/

/-- A doubled octet is a command that has no option. -/
theorem command_of_doubled : Command [interpretAsCommand, interpretAsCommand] :=
  .bare rfl (by decide)

/-- So is what closes a subnegotiation, where none is open. -/
theorem command_of_closing : Command closing :=
  .bare rfl (by decide)

/-- **Doubled octets among the text are lost.** -/
theorem spells_doubled (data : List Byte) : Spells (doubled data) (kept data) := by
  induction data with
  | nil => exact .nil
  | cons b data ih =>
    rw [doubled_cons, kept]
    by_cases special : b = interpretAsCommand
    · rw [if_pos special, List.filter_cons_of_neg (by simp [special]), special]
      exact .command command_of_doubled ih
    · rw [if_neg special, List.filter_cons_of_pos (by simp [special])]
      exact .octet special ih

/-- Doubled data begins with the octet that the data begins with. -/
theorem head_of_doubled {b : Byte} (front : [b] <+: doubled data) : [b] <+: data := by
  cases data with
  | nil => exact front
  | cons c data =>
    have same : b = c := by
      rw [doubled_cons] at front
      split at front
      · exact (List.cons_prefix_cons.1 front).1
      · exact (List.cons_prefix_cons.1 front).1
    rw [same]
    exact List.prefix_append [c] data

/-- Doubling does not bring about what closes a subnegotiation.  The only place for it is behind a doubled
octet, and there the data has it too. -/
theorem closing_of_doubled (inside : closing <:+: doubled data) : closing <:+: data := by
  induction data with
  | nil => exact inside
  | cons b data ih =>
    have further (inside : closing <:+: doubled data) : closing <:+: b :: data :=
      (ih inside).trans (List.suffix_cons _ _).isInfix
    rw [doubled_cons] at inside
    by_cases special : b = interpretAsCommand
    · subst special
      rcases List.infix_cons_iff.1 inside with front | inside
      · exact absurd (List.cons_prefix_cons.1 (List.cons_prefix_cons.1 front).2).1 (by decide)
      rcases List.infix_cons_iff.1 inside with front | inside
      · have next : [subnegotiationEnd] <+: data := head_of_doubled (List.cons_prefix_cons.1 front).2
        exact (List.cons_prefix_cons.2 ⟨rfl, next⟩).isInfix
      · exact further inside
    · rw [if_neg special] at inside
      rcases List.infix_cons_iff.1 inside with front | inside
      · exact absurd (List.cons_prefix_cons.1 front).1.symm special
      · exact further inside

/-- A subnegotiation is open still at the octet 255 that the data has before its first 240 behind one. -/
theorem not_closing_of_first {front behind : List Byte}
    (found : data.dropInfix? closing = some (front, behind)) :
    ¬ closing <:+: doubled front ++ [interpretAsCommand] := by
  have first := Frame.first_of_dropInfix? found
  rw [closing, List.append_cons] at first
  have absent : ¬ closing <:+: front ++ [interpretAsCommand] := Frame.not_infix_of_first first
  rw [List.infix_concat_iff, not_or] at absent ⊢
  refine ⟨?_, fun inside => absent.2 (closing_of_doubled inside)⟩
  rintro ⟨others, ends⟩
  rw [closing, List.append_cons] at ends
  have last : [subnegotiationEnd] = [interpretAsCommand] := (List.append_inj' ends rfl).2
  exact absurd last (by decide)

/-- **Of what a subnegotiation carries, all is found that stands behind the first octet 255 with 240 after
it.**  The second of the doubled octets and the 240 are what the subnegotiation is closed with, and what was
meant to close it is a command of its own. -/
theorem spells_subnegotiation (data : List Byte) : Spells (subnegotiation (doubled data)) (leaked data) := by
  rw [leaked]
  rcases found : data.dropInfix? closing with _ | ⟨front, behind⟩
  · have absent := Frame.not_infix_of_dropInfix? (List.cons_ne_nil _ _) found
    exact (Command.subnegotiation fun inside => absent (closing_of_doubled inside)).spells
  · have split := (Frame.dropInfix?_eq_some.1 found).1
    have sent : subnegotiation (doubled data) =
        subnegotiation (doubled front ++ [interpretAsCommand]) ++ (doubled behind ++ (closing ++ [])) := by
      have pair : doubled closing = interpretAsCommand :: closing := by decide
      rw [split, doubled_append, doubled_append, pair]
      simp [subnegotiation]
    rw [sent]
    have later : Spells (doubled behind ++ (closing ++ [])) (kept behind) := by
      have ended := (spells_doubled behind).append command_of_closing.spells
      rwa [List.append_nil, ← List.append_nil closing] at ended
    exact .command (.subnegotiation (not_closing_of_first found)) later

/-- Nothing of a subnegotiation is found unless the data holds the octets 255 and 240 and then one more. -/
theorem leaked_eq_nil : leaked data = [] ↔
    ∀ before after, data = before ++ closing ++ after → ∀ b ∈ after, b = interpretAsCommand := by
  rw [leaked]
  rcases found : data.dropInfix? closing with _ | ⟨front, behind⟩
  · have absent := Frame.not_infix_of_dropInfix? (List.cons_ne_nil _ _) found
    exact ⟨fun _ before after split => absurd ⟨before, after, split.symm⟩ absent, fun _ => rfl⟩
  · obtain ⟨split, shortest⟩ := Frame.dropInfix?_eq_some.1 found
    dsimp only
    rw [kept_eq_nil]
    refine ⟨fun special before after split' b inside => ?_, fun all => all front behind split⟩
    have longer := shortest before after split'
    have suffix : after <:+ behind := by
      refine List.suffix_of_suffix_length_le ⟨_, split'.symm⟩ ⟨_, split.symm⟩ ?_
      have sizes := congrArg List.length split
      rw [split'] at sizes
      simp only [List.length_append] at sizes
      omega
    exact special b (suffix.subset inside)

end Telnet

namespace Frame

variable {marker octets body before text : List Byte}

/-- Behind octets that spell a text, a marker that is not found before ends the reading. -/
theorem read_of_spelled_marker (some_marker : marker ≠ []) (plain : Telnet.interpretAsCommand ∉ marker)
    (spelled : Telnet.Spells octets body) (first : (body ++ marker).dropInfix? marker = some (body, []))
    (rest : List Byte) : read marker true {} (octets ++ marker ++ rest) = (.complete body, rest) := by
  obtain ⟨front, b, rfl⟩ := (List.eq_nil_or_concat' marker).resolve_left some_marker
  rw [List.mem_append, List.mem_singleton, not_or] at plain
  rw [← List.append_assoc] at first
  have here := read_of_spelled (spelled.append (.of_plain plain.1)) (Ne.symm plain.2) first rest
  simpa using here

/-- Octets that spell nothing are not noticed by a reading that has come to them. -/
theorem read_of_silent (spelled : Telnet.Spells before text) (absent : ¬ marker <:+: text)
    (silent : Telnet.Spells octets []) (rest : List Byte) :
    read marker true {} (before ++ octets ++ rest) = read marker true {} (before ++ rest) := by
  have comes_to {octets : List Byte} (spelled : Telnet.Spells octets text) :
      read marker true {} octets = (.unfinished { text := text.reverse }, []) := by
    obtain ⟨found, stands⟩ := spelled.textOf
    obtain ⟨⟨mode, kept⟩, ran, same, stands'⟩ := read_of_absent (found.symm ▸ absent)
    cases stands'.trans stands
    rw [ran, ← found, ← same]
    simp
  have both := spelled.append silent
  rw [List.append_nil] at both
  rw [read_append, comes_to both, read_append, comes_to spelled]

end Frame

namespace Connection

/-- Octets that are dropped exactly: wherever a reading has come to without finding its marker, it goes on
as if they were not there. -/
def DroppedExactly (octets : List Byte) : Prop :=
  ∀ {before text marker rest : List Byte}, Telnet.Spells before text → ¬ marker <:+: text →
    ∀ {c c' : Connection ScriptedStream}, c.Brings (before ++ octets ++ rest) →
      c'.Brings (before ++ rest) →
      ∃ outcome left e e', (readUntil marker true).exec c = (outcome, e) ∧ e.Brings left ∧
        (readUntil marker true).exec c' = (outcome, e') ∧ e'.Brings left

/-- Octets that are read as some text: a reading of them up to a marker behind them, if it does not find the
marker before, returns the text and leaves what stands behind the marker. -/
def ReadAs (octets text : List Byte) : Prop :=
  ∀ {marker rest : List Byte}, marker ≠ [] → Telnet.interpretAsCommand ∉ marker →
    (text ++ marker).dropInfix? marker = some (text, []) →
    ∀ {c : Connection ScriptedStream}, c.Brings (octets ++ marker ++ rest) →
      ∃ e, (readUntil marker true).exec c = (.ok text, e) ∧ e.Brings rest

/-- There is a connection for any octets to be left on. -/
theorem exists_brings (octets : List Byte) : ∃ c : Connection ScriptedStream, c.Brings octets :=
  ⟨{ stream := {}, buffer := octets }, [], rfl, List.not_mem_nil, List.append_nil octets⟩

/-- **Octets are dropped exactly if and only if they spell nothing.**  If they spell something, its first
octet is found by a reading up to it, and is not found without them. -/
theorem droppedExactly_iff {octets body : List Byte} (spelled : Telnet.Spells octets body) :
    DroppedExactly octets ↔ body = [] := by
  constructor
  · intro dropped
    by_contra some_octet
    obtain ⟨b, body, rfl⟩ := List.exists_cons_of_ne_nil some_octet
    obtain ⟨c, brings⟩ := exists_brings ([] ++ octets ++ [])
    obtain ⟨c', brings'⟩ := exists_brings ([] ++ [])
    have absent : ¬ [b] <:+: [] := by simp
    obtain ⟨outcome, left, e, e', ran, -, ran', -⟩ := dropped .nil absent brings brings'
    obtain ⟨e₁, with_octets, -⟩ := brings.readUntil [b] true
    obtain ⟨e₁', without, -⟩ := brings'.readUntil [b] true
    have inside : [b] <:+: Telnet.textOf .text ([] ++ octets ++ []) := by
      rw [List.append_nil, List.nil_append, spelled.textOf.1]
      exact (List.prefix_append [b] body).isInfix
    obtain ⟨text, rest, read⟩ := Frame.exists_read_of_infix (List.cons_ne_nil b []) inside
    rw [ran, read] at with_octets
    rw [ran'] at without
    -- The same outcome would be a text and a failure.
    have found : outcome = .ok text := congrArg Prod.fst with_octets
    have nothing : outcome = .error (.transport .receive .ended) := congrArg Prod.fst without
    rw [found] at nothing
    cases nothing
  · rintro rfl before text marker rest spelled' absent c c' brings brings'
    obtain ⟨e, ran, left⟩ := brings.readUntil marker true
    obtain ⟨e', ran', left'⟩ := brings'.readUntil marker true
    rw [Frame.read_of_silent spelled' absent spelled rest] at ran left
    exact ⟨_, _, e, e', ran, left, ran', left'⟩

/-- **Octets are read as the text that they spell.** -/
theorem readAs_of_spelled {octets body : List Byte} (spelled : Telnet.Spells octets body) :
    ReadAs octets body := by
  intro marker rest some_marker plain first c brings
  obtain ⟨e, ran, left⟩ := brings.readUntil marker true
  rw [Frame.read_of_spelled_marker some_marker plain spelled first] at ran left
  exact ⟨e, ran, left⟩

/-- **Doubled octets are not taken for one octet of data.**  A subnegotiation whose payload is doubled is
dropped exactly if and only if what it carries holds nothing but octets 255 behind the octets 255 and 240;
else it is read as what stands behind these.  Data among the text is read as what had not to be doubled, and
so as itself only if there was nothing to double. -/
theorem readings_of_doubled (data : List Byte) :
    (DroppedExactly (Telnet.subnegotiation (Telnet.doubled data)) ↔
      ∀ before after, data = before ++ Telnet.closing ++ after →
        ∀ b ∈ after, b = Telnet.interpretAsCommand) ∧
    ReadAs (Telnet.subnegotiation (Telnet.doubled data)) (Telnet.leaked data) ∧
    ReadAs (Telnet.doubled data) (Telnet.kept data) ∧
    (Telnet.kept data = data ↔ Telnet.interpretAsCommand ∉ data) := by
  have dropped : DroppedExactly (Telnet.subnegotiation (Telnet.doubled data)) ↔ Telnet.leaked data = [] :=
    droppedExactly_iff (Telnet.spells_subnegotiation data)
  refine ⟨dropped.trans Telnet.leaked_eq_nil, ?_, ?_, Telnet.kept_eq_self⟩
  · exact readAs_of_spelled (Telnet.spells_subnegotiation data)
  · exact readAs_of_spelled (Telnet.spells_doubled data)

/-- A terminal's name with the octets 255 and 240 in it: `A` is found behind them, and the 255 between `B`
and `C` is not. -/
theorem readings_of_doubled_name :
    let name : List Byte := [0x18, 255, 240, 0x41]
    let prompt : List Byte := [0x3e, 0x20]
    let c : Connection ScriptedStream :=
      { stream := { incoming := [.octets (Telnet.subnegotiation (Telnet.doubled name) ++ prompt)] } }
    let d : Connection ScriptedStream :=
      { stream := { incoming := [.octets (Telnet.doubled [0x42, 255, 0x43] ++ prompt)] } }
    ¬ DroppedExactly (Telnet.subnegotiation (Telnet.doubled name)) ∧
      DroppedExactly (Telnet.subnegotiation (Telnet.doubled [0x18, 255, 0x41])) ∧
      ((readUntil prompt true).exec c).1 = .ok [0x41] ∧
      ((readUntil prompt true).exec d).1 = .ok [0x42, 0x43] := by
  intro name prompt c d
  have plain : Telnet.interpretAsCommand ∉ prompt := by decide
  have brings : c.Brings (Telnet.subnegotiation (Telnet.doubled name) ++ prompt ++ []) :=
    ⟨[_], rfl, by decide, by decide⟩
  have brings' : d.Brings (Telnet.doubled [0x42, 255, 0x43] ++ prompt ++ []) :=
    ⟨[_], rfl, by decide, by decide⟩
  obtain ⟨dropped, leaks, -, -⟩ := readings_of_doubled name
  obtain ⟨dropped', -⟩ := readings_of_doubled [0x18, 255, 0x41]
  obtain ⟨-, -, keeps, -⟩ := readings_of_doubled [0x42, 255, 0x43]
  obtain ⟨e, ran, -⟩ := leaks (List.cons_ne_nil _ _) plain (by decide) brings
  obtain ⟨e', ran', -⟩ := keeps (List.cons_ne_nil _ _) plain (by decide) brings'
  have absent : ¬ Telnet.closing <:+: ([0x18, 255, 0x41] : List Byte) := by decide
  refine ⟨fun all => ?_, ?_, congrArg Prod.fst ran, congrArg Prod.fst ran'⟩
  · exact absurd (dropped.1 all [0x18] [0x41] (by decide) 0x41 (by decide)) (by decide)
  · exact dropped'.2 fun before after split => absurd ⟨before, after, split.symm⟩ absent

end Connection

end HartDebug
