import HartDebug.Proofs.Wire.Interruption
import HartDebug.Proofs.Wire.Negotiation
import Mathlib.Data.List.Basic

/-!
# Readings in terms of the first marker

A reading looks at one octet after another and has nothing to look ahead with.  Where it ends can be told
from the octets as a whole: behind the first marker among them, or, if Telnet commands are left out, behind
the first marker of the text that they spell.

* `Found` — how a reading ends on octets after which nothing comes;
* `Frame.read?_eq_dropInfix?` — **a reading searches for the first marker**;
* `Frame.found_of_read`, `Found.read` — **a reading ends so, and in no other way**.
-/

namespace HartDebug

/-- What becomes of a reading when nothing more comes. -/
def Frame.Progress.outcome : Progress → Except DebugError (List Byte)
  | .complete text => .ok text
  | .unfinished _ => .error (.transport .receive .ended)

/-- How a reading up to a marker ends on octets after which nothing comes: what it returns, and which octets
are left unread.  The second argument says whether Telnet commands are left out. -/
inductive Found (marker : List Byte) :
    Bool → List Byte → Except DebugError (List Byte) → List Byte → Prop where
  /-- What stands before the first marker is returned, and what stands behind it is left. -/
  | plain {octets text rest : List Byte} (first : octets.dropInfix? marker = some (text, rest)) :
      Found marker false octets (.ok text) rest
  /-- There is no marker, and everything has been taken. -/
  | absent {octets : List Byte} (nowhere : octets.dropInfix? marker = none) :
      Found marker false octets (.error (.transport .receive .ended)) []
  /-- The octets up to and with `b` spell a text that ends in its first marker, and what stands behind them
  is left as it is. -/
  | among {front body text rest : List Byte} {b : Byte} (spelled : Telnet.Spells front body)
      (octet : b ≠ Telnet.interpretAsCommand)
      (first : (body ++ [b]).dropInfix? marker = some (text, [])) :
      Found marker true (front ++ b :: rest) (.ok text) rest
  /-- The octets spell a text without the marker, and a command may have begun behind it. -/
  | absentAmong {front part text : List Byte} (spelled : Telnet.Spells front text)
      (unfinished : Telnet.Unfinished part) (nowhere : text.dropInfix? marker = none) :
      Found marker true (front ++ part) (.error (.transport .receive .ended)) []

namespace Frame

variable {marker octets text rest : List Byte} {telnet : Bool}

/-! ## The first marker -/

theorem dropInfix?_eq_some :
    octets.dropInfix? marker = some (text, rest) ↔ octets = text ++ marker ++ rest ∧
      ∀ before after, octets = before ++ marker ++ after → text.length ≤ before.length := by
  rw [List.dropInfix?_eq_some_iff]
  constructor
  · rintro ⟨⟨found, split, same⟩, shortest⟩
    obtain rfl := eq_of_beq same
    exact ⟨split, fun before after other => shortest before found after other (beq_self_eq_true _)⟩
  · rintro ⟨split, shortest⟩
    refine ⟨⟨marker, split, beq_self_eq_true _⟩, fun before found after other same => ?_⟩
    obtain rfl := eq_of_beq same
    exact shortest before after other

/-- The first marker is the first also where nothing stands behind it. -/
theorem first_of_dropInfix? (first : octets.dropInfix? marker = some (text, rest)) :
    (text ++ marker).dropInfix? marker = some (text, []) := by
  obtain ⟨split, shortest⟩ := dropInfix?_eq_some.1 first
  rw [dropInfix?_eq_some, List.append_nil]
  refine ⟨rfl, fun before after split' => shortest before (after ++ rest) ?_⟩
  rw [split, split', List.append_assoc]

/-- Where there is a marker, a reading ends at this one or before it. -/
theorem read_of_marker (some_marker : marker ≠ []) (before after : List Byte) :
    ∃ text rest, read marker false {} (before ++ marker ++ after) = (.complete text, rest) ∧
      text.length ≤ before.length := by
  rcases early : read marker false {} (before ++ marker) with ⟨f | text, rest⟩
  · refine absurd (List.suffix_append before marker) (not_suffix_of_read ?_ early)
    exact List.append_ne_nil_of_right_ne_nil before some_marker
  · refine ⟨text, rest ++ after, by rw [read_append, early], ?_⟩
    have sizes := congrArg List.length (marker_of_read early)
    simp only [List.length_append, List.reverse_nil, List.length_nil] at sizes
    omega

/-- **A reading searches for the first marker.** -/
theorem read?_eq_dropInfix? (some_marker : marker ≠ []) (octets : List Byte) :
    read? marker false octets = octets.dropInfix? marker := by
  rcases ran : read marker false {} octets with ⟨f | text, rest⟩
  · rw [read?, ran]
    rcases found : octets.dropInfix? marker with _ | ⟨text, rest'⟩
    · rfl
    · obtain ⟨rfl, -⟩ := dropInfix?_eq_some.1 found
      obtain ⟨text', left, ran', -⟩ := read_of_marker some_marker text rest'
      rw [ran'] at ran
      cases ran
  · rw [read?_eq_some.2 ran, eq_comm, dropInfix?_eq_some]
    refine ⟨marker_of_read ran, fun before after split => ?_⟩
    obtain ⟨text', left, ran', shorter⟩ := read_of_marker some_marker before after
    rw [← split, ran] at ran'
    cases ran'
    exact shorter

/-- There is a first marker where there is any. -/
theorem not_infix_of_dropInfix? (some_marker : marker ≠ []) (nowhere : octets.dropInfix? marker = none) :
    ¬ marker <:+: octets := by
  rintro ⟨before, after, rfl⟩
  obtain ⟨text, rest, ran, -⟩ := read_of_marker some_marker before after
  rw [← read?_eq_dropInfix? some_marker, read?_eq_some.2 ran] at nowhere
  cases nowhere

/-- A text that ends in its first marker holds none without its last octet. -/
theorem not_infix_of_first {body : List Byte} {b : Byte}
    (first : (body ++ [b]).dropInfix? marker = some (text, [])) : ¬ marker <:+: body := by
  obtain ⟨whole, shortest⟩ := dropInfix?_eq_some.1 first
  rintro ⟨before, after, split⟩
  have shorter := shortest before (after ++ [b]) (by rw [← split, List.append_assoc])
  have sizes := congrArg List.length whole
  rw [← split] at sizes
  simp only [List.length_append, List.length_cons, List.length_nil] at sizes
  omega

/-! ## Readings past Telnet commands -/

/-- The marker ends in an octet of the text, and nothing behind that octet has been taken. -/
theorem last_of_read {f : Frame} (ran : read marker true f octets = (.complete text, rest)) :
    ∃ front b, octets = front ++ b :: rest ∧ Telnet.modeAfter f.mode front = .text ∧
      b ≠ Telnet.interpretAsCommand := by
  induction octets generalizing f with
  | nil => cases ran
  | cons b octets ih =>
    rw [read, step, if_pos rfl] at ran
    rcases moved : Telnet.step f.mode b with ⟨mode, _ | octet⟩
    · rw [moved] at ran
      obtain ⟨front, last, rfl, ended, plain⟩ := ih ran
      exact ⟨b :: front, last, rfl, by rw [Telnet.modeAfter, moved]; exact ended, plain⟩
    · obtain ⟨rfl, rfl⟩ := Telnet.step_eq_some moved
      obtain ⟨here, plain⟩ := Telnet.text_of_step moved
      rw [moved] at ran
      dsimp only at ran
      cases took : take marker { f with mode := .text } octet with
      | complete found =>
        rw [took] at ran
        cases ran
        exact ⟨[], octet, rfl, here, plain⟩
      | unfinished f' =>
        rw [took] at ran
        obtain ⟨front, last, rfl, ended, plain⟩ := ih ran
        refine ⟨octet :: front, last, rfl, ?_, plain⟩
        have mode : f'.mode = .text := mode_of_take took
        rw [mode] at ended
        rw [Telnet.modeAfter, moved]
        exact ended

/-- A reading ends where the text that the octets spell holds the marker. -/
theorem exists_read_of_infix (some_marker : marker ≠ []) (inside : marker <:+: Telnet.textOf .text octets) :
    ∃ text rest, read marker true {} octets = (.complete text, rest) := by
  have relation := read_telnet marker {} octets
  rcases ran : read marker true {} octets with ⟨f | text, rest⟩
  · obtain ⟨before, after, split⟩ := inside
    obtain ⟨text, left, ran', -⟩ := read_of_marker some_marker before after
    have alone : (read marker false {} (Telnet.textOf .text octets)).1 = .unfinished (plain f) := by
      rw [ran] at relation
      exact congrArg Prod.fst relation.1
    rw [← split, ran'] at alone
    cases alone
  · exact ⟨text, rest, rfl⟩

/-- An octet of the text that makes the marker complete ends the reading. -/
theorem take_of_marker {f : Frame} {b : Byte} (whole : f.text.reverse ++ [b] = text ++ marker) :
    f.take marker b = .complete text := by
  have reversed := congrArg List.reverse whole
  simp only [List.reverse_append, List.reverse_reverse, List.reverse_singleton, List.singleton_append]
    at reversed
  rw [take, reversed, if_pos (List.isPrefixOf_iff_prefix.2 (List.prefix_append _ _)),
    List.drop_left' List.length_reverse, List.reverse_reverse]

/-- Behind octets that spell a text without its first marker, the marker's last octet ends the reading. -/
theorem read_of_spelled {front body : List Byte} {b : Byte} (spelled : Telnet.Spells front body)
    (octet : b ≠ Telnet.interpretAsCommand) (first : (body ++ [b]).dropInfix? marker = some (text, []))
    (rest : List Byte) : read marker true {} (front ++ b :: rest) = (.complete text, rest) := by
  obtain ⟨found, stands⟩ := spelled.textOf
  have absent : ¬ marker <:+: Telnet.textOf .text front := found ▸ not_infix_of_first first
  obtain ⟨f, ran, kept, mode⟩ := read_of_absent absent
  have whole : f.text.reverse ++ [b] = text ++ marker := by
    rw [kept, found, (dropInfix?_eq_some.1 first).1, List.append_nil]
  have moved : Telnet.step f.mode b = (.text, some b) := by
    rw [mode, stands, Telnet.step_of_plain octet]
  rw [read_append, ran]
  dsimp only
  rw [read, step, if_pos rfl, moved]
  dsimp only
  rw [take_of_marker (f := { f with mode := .text }) whole]

/-! ## What readings find -/

/-- A reading of octets that spell a text is a reading of the text up to the octet that ends it. -/
theorem first_of_read (some_marker : marker ≠ []) {body : List Byte}
    (ran : read marker false {} (body ++ rest) = (.complete text, rest)) :
    body.dropInfix? marker = some (text, []) := by
  obtain ⟨front, split, alone⟩ := front_of_read ran
  obtain rfl := List.append_cancel_right split
  have here := alone []
  rw [List.append_nil] at here
  rw [← read?_eq_dropInfix? some_marker, read?_eq_some.2 here]

/-- **A reading ends behind the first marker**, or with everything taken. -/
theorem found_of_read (some_marker : marker ≠ []) (telnet : Bool) (octets : List Byte) :
    Found marker telnet octets (read marker telnet {} octets).1.outcome (read marker telnet {} octets).2 := by
  cases telnet with
  | false =>
    have search := read?_eq_dropInfix? some_marker octets
    rcases ran : read marker false {} octets with ⟨f | text, rest⟩
    · obtain ⟨-, rfl⟩ := kept_of_read ran
      rw [read?, ran] at search
      exact .absent search.symm
    · rw [read?_eq_some.2 ran] at search
      exact .plain search.symm
  | true =>
    have relation := read_telnet marker {} octets
    rcases ran : read marker true {} octets with ⟨f | text, rest⟩
    · rw [ran] at relation
      obtain ⟨-, rfl⟩ := kept_of_read relation.1
      obtain ⟨front, part, split, spelled, begun⟩ := Telnet.exists_spells octets
      have nowhere : (Telnet.textOf .text octets).dropInfix? marker = none := by
        rw [← read?_eq_dropInfix? some_marker, read?,
          show read marker false {} (Telnet.textOf .text octets) = _ from relation.1]
      have ended := Found.absentAmong spelled begun.unfinished nowhere
      rw [← split] at ended
      exact ended
    · rw [ran] at relation
      obtain ⟨init, b, rfl, ended, plain⟩ := last_of_read ran
      obtain ⟨front, part, split, spelled, begun⟩ := Telnet.exists_spells init
      have stands : Telnet.modeAfter .text init = .text := ended
      rw [stands] at begun
      cases begun
      rw [List.append_nil] at split
      have whole : read marker false {} (Telnet.textOf .text (init ++ b :: rest)) =
        (.complete text, Telnet.textOf .text rest) := relation.1
      rw [Telnet.textOf_append, stands, Telnet.textOf, Telnet.step_of_plain plain, ← List.append_assoc]
        at whole
      exact .among (split ▸ spelled) plain (first_of_read some_marker whole)

end Frame

/-- **A reading finds nothing else.** -/
theorem Found.read {marker octets rest : List Byte} {telnet : Bool} {outcome : Except DebugError (List Byte)}
    (some_marker : marker ≠ []) (h : Found marker telnet octets outcome rest) :
    (Frame.read marker telnet {} octets).1.outcome = outcome ∧
      (Frame.read marker telnet {} octets).2 = rest := by
  cases h with
  | plain first =>
    rw [← Frame.read?_eq_dropInfix? some_marker, Frame.read?_eq_some] at first
    rw [first]
    exact ⟨rfl, rfl⟩
  | absent nowhere =>
    rcases ran : Frame.read marker false {} octets with ⟨f | text, rest⟩
    · exact ⟨rfl, (Frame.kept_of_read ran).2⟩
    · rw [← Frame.read?_eq_dropInfix? some_marker, Frame.read?_eq_some.2 ran] at nowhere
      cases nowhere
  | among spelled octet first =>
    rw [Frame.read_of_spelled spelled octet first]
    exact ⟨rfl, rfl⟩
  | @absentAmong front part text spelled unfinished nowhere =>
    have found : Telnet.textOf .text (front ++ part) = text := by
      rw [Telnet.textOf_append, spelled.textOf.1, spelled.textOf.2, unfinished.textOf, List.append_nil]
    have absent : ¬ marker <:+: Telnet.textOf .text (front ++ part) :=
      found ▸ Frame.not_infix_of_dropInfix? some_marker nowhere
    obtain ⟨f, ran, -⟩ := Frame.read_of_absent absent
    rw [ran]
    exact ⟨rfl, rfl⟩

end HartDebug
