import HartDebug.Wire.Connection

/-!
# Readings up to a marker

A reading takes one octet at a time until the marker has come.  What it finds depends only on the octets,
in their order: not on the pieces in which they come, nor on when a piece comes.  Telnet commands among
the octets are as good as absent.

* `Telnet.textOf`, `Telnet.modeAfter` — the text among octets, and where the machine stands after them;
* `Frame.read` — a reading over octets that are there;
* `Frame.read_append` — **a reading goes on over what comes next**;
* `Frame.read_telnet` — **a reading past Telnet commands is a reading of the text among them**;
* `Frame.read_marker`, `Frame.marker_of_read` — the marker that ends a reading is the first;
* `Frame.front_of_read` — a reading looks at nothing beyond the marker;
* `Frame.read_of_split`, `Frame.read_of_absent` — **readings among Telnet commands**, with the marker and
  without it.
-/

namespace HartDebug

/-! ## The text among Telnet commands -/

namespace Telnet

/-- The text among octets. -/
def textOf : Mode → List Byte → List Byte
  | _, [] => []
  | mode, b :: rest => (step mode b).2.toList ++ textOf (step mode b).1 rest

/-- Where the machine stands after octets. -/
def modeAfter : Mode → List Byte → Mode
  | mode, [] => mode
  | mode, b :: rest => modeAfter (step mode b).1 rest

theorem textOf_append (mode : Mode) (xs ys : List Byte) :
    textOf mode (xs ++ ys) = textOf mode xs ++ textOf (modeAfter mode xs) ys := by
  induction xs generalizing mode with
  | nil => rfl
  | cons b xs ih => rw [List.cons_append, textOf, textOf, modeAfter, ih, List.append_assoc]

theorem modeAfter_append (mode : Mode) (xs ys : List Byte) :
    modeAfter mode (xs ++ ys) = modeAfter (modeAfter mode xs) ys := by
  induction xs generalizing mode with
  | nil => rfl
  | cons b xs ih => rw [List.cons_append, modeAfter, modeAfter, ih]

/-- An octet that is text leaves the machine in the text. -/
theorem step_eq_some {mode mode' : Mode} {b b' : Byte} (h : step mode b = (mode', some b')) :
    mode' = .text ∧ b' = b := by
  cases mode with
  | text =>
    rw [step] at h
    split at h
    · cases h
    · cases h
      exact ⟨rfl, rfl⟩
  | command =>
    rw [step] at h
    split at h
    · cases h
    · split at h <;> cases h
  | option => cases h
  | subnegotiation previous =>
    rw [step] at h
    split at h <;> cases h

theorem step_of_plain {b : Byte} (h : b ≠ interpretAsCommand) : step .text b = (.text, some b) := by
  rw [step, if_neg h]

/-- Octets without a Telnet command are text as they stand. -/
theorem textOf_of_plain {bytes : List Byte} (h : interpretAsCommand ∉ bytes) :
    textOf .text bytes = bytes ∧ modeAfter .text bytes = .text := by
  induction bytes with
  | nil => exact ⟨rfl, rfl⟩
  | cons b rest ih =>
    rw [List.mem_cons, not_or] at h
    obtain ⟨text, mode⟩ := ih h.2
    rw [textOf, modeAfter, step_of_plain (Ne.symm h.1)]
    exact ⟨congrArg (b :: ·) text, mode⟩

end Telnet

/-! ## Readings over octets that are there -/

namespace Frame

/-- Read octets until the marker has come: how the reading stands, and what comes after the marker. -/
def read (marker : List Byte) (telnet : Bool) : Frame → List Byte → Progress × List Byte
  | f, [] => (.unfinished f, [])
  | f, b :: rest =>
    match f.step marker telnet b with
    | .complete text => (.complete text, rest)
    | .unfinished f => read marker telnet f rest

variable {marker : List Byte} {telnet : Bool}

/-- **A reading goes on over what comes next.** -/
theorem read_append (f : Frame) (xs ys : List Byte) :
    read marker telnet f (xs ++ ys) =
      match read marker telnet f xs with
      | (.complete text, rest) => (.complete text, rest ++ ys)
      | (.unfinished f, _) => read marker telnet f ys := by
  induction xs generalizing f with
  | nil => rfl
  | cons b xs ih =>
    rw [List.cons_append, read, read]
    cases f.step marker telnet b with
    | complete text => rfl
    | unfinished f => exact ih f

/-- **A reading looks at nothing beyond the marker.** -/
theorem front_of_read {f : Frame} {bytes text rest : List Byte}
    (h : read marker telnet f bytes = (.complete text, rest)) :
    ∃ front, bytes = front ++ rest ∧
      ∀ others, read marker telnet f (front ++ others) = (.complete text, others) := by
  induction bytes generalizing f with
  | nil => cases h
  | cons b bytes ih =>
    rw [read] at h
    cases stepped : f.step marker telnet b with
    | complete found =>
      rw [stepped] at h
      cases h
      refine ⟨[b], rfl, fun others => ?_⟩
      rw [List.singleton_append, read, stepped]
    | unfinished f' =>
      rw [stepped] at h
      obtain ⟨front, rfl, alone⟩ := ih h
      refine ⟨b :: front, rfl, fun others => ?_⟩
      rw [List.cons_append, read, stepped]
      exact alone others

/-- The reading of text that has the same text before it. -/
def plain (f : Frame) : Frame :=
  { f with mode := .text }

/-- A reading that goes on behind an octet of the text is in the text still. -/
theorem mode_of_take {f f' : Frame} {b : Byte} (took : f.take marker b = .unfinished f') :
    f'.mode = f.mode := by
  rw [take] at took
  split at took
  · cases took
  · cases took
    rfl

variable (marker) in
/-- **A reading past Telnet commands is a reading of the text among them.** -/
theorem read_telnet (f : Frame) (bytes : List Byte) :
    match read marker true f bytes with
    | (.complete text, rest) =>
      read marker false f.plain (Telnet.textOf f.mode bytes) =
          (.complete text, Telnet.textOf .text rest) ∧
        Telnet.modeAfter f.mode bytes = Telnet.modeAfter .text rest
    | (.unfinished f', rest) =>
      read marker false f.plain (Telnet.textOf f.mode bytes) = (.unfinished f'.plain, rest) ∧
        f'.mode = Telnet.modeAfter f.mode bytes := by
  induction bytes generalizing f with
  | nil => exact ⟨rfl, rfl⟩
  | cons b rest ih =>
    rw [read, step, if_pos rfl, Telnet.textOf, Telnet.modeAfter]
    rcases moved : Telnet.step f.mode b with ⟨mode, _ | octet⟩
    · -- The octet belongs to a command and is no text.
      exact ih { f with mode := mode }
    · obtain ⟨rfl, rfl⟩ := Telnet.step_eq_some moved
      have taken : f.plain.step marker false octet = f.plain.take marker octet := rfl
      rw [Option.toList_some, List.singleton_append, read, taken]
      show match (match f.plain.take marker octet with
        | .complete text => (Progress.complete text, rest)
        | .unfinished f => read marker true f rest) with
        | (.complete text, rest) => _
        | (.unfinished f', rest) => _
      cases took : f.plain.take marker octet with
      | complete text => exact ⟨rfl, rfl⟩
      | unfinished f' =>
        have mode : f'.mode = .text := mode_of_take took
        have same : f'.plain = f' := by
          rw [Frame.plain, ← mode]
        have rest := ih f'
        rw [same, mode] at rest
        exact rest

/-- Without Telnet commands there is nothing to read past. -/
theorem read_of_plain {f : Frame} (mode : f.mode = .text) {bytes : List Byte}
    (h : Telnet.interpretAsCommand ∉ bytes) : read marker true f bytes = read marker false f bytes := by
  induction bytes generalizing f with
  | nil => rfl
  | cons b rest ih =>
    rw [List.mem_cons, not_or] at h
    have moved : Telnet.step f.mode b = (.text, some b) := by
      rw [mode, Telnet.step_of_plain (Ne.symm h.1)]
    have same : ({ f with mode := .text } : Frame) = f := by rw [← mode]
    rw [read, read, step, step, if_pos rfl, if_neg (by decide), moved]
    dsimp only
    rw [same, take]
    split
    · next ended =>
      split at ended
      · cases ended
        rfl
      · cases ended
    · next f' going =>
      split at going
      · cases going
      · cases going
        exact ih mode h.2

/-! ### The first marker -/

/-- What stood before the marker, the marker, and what comes after it are what was read. -/
theorem marker_of_read {f : Frame} {bytes text rest : List Byte}
    (h : read marker false f bytes = (.complete text, rest)) :
    f.text.reverse ++ bytes = text ++ marker ++ rest := by
  induction bytes generalizing f with
  | nil => cases h
  | cons b bytes ih =>
    rw [read, step, if_neg (by decide), take] at h
    split at h
    · next ended =>
      split at ended
      · next found =>
        obtain ⟨before, found⟩ := List.isPrefixOf_iff_prefix.1 found
        cases ended
        cases h
        have whole := congrArg List.reverse found
        rw [List.reverse_append, List.reverse_reverse, List.reverse_cons] at whole
        rw [← found, List.drop_append_of_le_length (by simp), List.drop_of_length_le (by simp),
          List.nil_append, whole, List.append_assoc]
        rfl
      · cases ended
    · next f' going =>
      split at going
      · cases going
      · cases going
        have rest := ih h
        rw [List.reverse_cons, List.append_assoc] at rest
        exact rest

/-- A reading that goes on has kept everything. -/
theorem kept_of_read {f f' : Frame} {bytes rest : List Byte}
    (h : read marker false f bytes = (.unfinished f', rest)) :
    f'.text.reverse = f.text.reverse ++ bytes ∧ rest = [] := by
  induction bytes generalizing f with
  | nil =>
    cases h
    exact ⟨(List.append_nil _).symm, rfl⟩
  | cons b bytes ih =>
    rw [read, step, if_neg (by decide), take] at h
    split at h
    · cases h
    · next f'' going =>
      split at going
      · cases going
      · cases going
        obtain ⟨kept, nothing⟩ := ih h
        rw [List.reverse_cons, List.append_assoc] at kept
        exact ⟨kept, nothing⟩

/-- Where a reading goes on, the marker does not stand at the end. -/
theorem not_suffix_of_read {f f' : Frame} {bytes rest : List Byte} (some_read : bytes ≠ [])
    (h : read marker false f bytes = (.unfinished f', rest)) :
    ¬ marker <:+ f.text.reverse ++ bytes := by
  induction bytes generalizing f with
  | nil => exact absurd rfl some_read
  | cons b bytes ih =>
    rw [read, step, if_neg (by decide), take] at h
    split at h
    · next ended => cases h
    · next f'' going =>
      split at going
      · cases going
      · next absent =>
        cases going
        cases bytes with
        | nil =>
          intro ends
          refine absent (List.isPrefixOf_iff_prefix.2 ?_)
          have reversed := List.reverse_prefix.2 ends
          rw [List.reverse_append, List.reverse_reverse] at reversed
          exact reversed
        | cons c bytes =>
          have later := ih (List.cons_ne_nil c bytes) h
          rw [List.reverse_cons, List.append_assoc] at later
          exact later

/-- **The marker is found where it first begins**: if its first octet does not come before it, the reading
ends with what does. -/
theorem read_marker {f : Frame} {m : Byte} {ms text : List Byte}
    (absent : m ∉ f.text.reverse ++ text) (rest : List Byte) :
    read (m :: ms) false f (text ++ (m :: ms) ++ rest) = (.complete (f.text.reverse ++ text), rest) := by
  have here : read (m :: ms) false f (text ++ m :: ms) = (.complete (f.text.reverse ++ text), []) := by
    rcases ran : read (m :: ms) false f (text ++ m :: ms) with ⟨f' | found, after⟩
    · refine absurd ?_ (not_suffix_of_read (by simp) ran)
      rw [← List.append_assoc]
      exact List.suffix_append _ _
    · have whole := marker_of_read ran
      rw [← List.append_assoc, List.append_assoc found] at whole
      rcases List.append_eq_append_iff.1 whole with ⟨more, text_eq, marker_eq⟩ | ⟨more, text_eq, marker_eq⟩
      · have sizes := congrArg List.length marker_eq
        simp only [List.length_append, List.length_cons] at sizes
        obtain rfl : more = [] := List.length_eq_zero_iff.1 (by omega)
        obtain rfl : after = [] := List.length_eq_zero_iff.1 (by omega)
        rw [text_eq, List.append_nil]
      · cases more with
        | nil =>
          have sizes := congrArg List.length marker_eq
          simp only [List.length_append, List.length_cons, List.length_nil] at sizes
          obtain rfl : after = [] := List.length_eq_zero_iff.1 (by omega)
          rw [text_eq, List.append_nil]
        | cons first more =>
          -- The marker would begin within the text.
          obtain rfl : m = first := (List.cons.inj marker_eq).1
          rw [text_eq] at absent
          exact absurd (List.mem_append_right _ List.mem_cons_self) absent
  rw [read_append, here]
  rfl

/-! ### Readings among Telnet commands -/

/-- **A text that holds the marker is read up to its first**, so that what stands after any other is
still unread. -/
theorem read_of_split {bytes before after : List Byte} (some_marker : marker ≠ [])
    (split : Telnet.textOf .text bytes = before ++ marker ++ after) :
    ∃ text rest, read marker true {} bytes = (.complete text, rest) ∧
      Telnet.textOf .text bytes = text ++ marker ++ Telnet.textOf .text rest ∧
      after <:+ Telnet.textOf .text rest ∧
      Telnet.modeAfter .text bytes = Telnet.modeAfter .text rest := by
  have relation := read_telnet marker {} bytes
  rcases early : read marker false {} (before ++ marker) with ⟨f | text, more⟩
  · refine absurd (List.suffix_append before marker) (not_suffix_of_read ?_ early)
    exact List.append_ne_nil_of_right_ne_nil before some_marker
  · have whole : read marker false {} (Telnet.textOf .text bytes) = (.complete text, more ++ after) := by
      rw [split, read_append, early]
    rcases ran : read marker true {} bytes with ⟨f | found, rest⟩
    · rw [ran] at relation
      have unfinished := relation.1
      rw [show Frame.plain {} = {} from rfl, show Frame.mode {} = .text from rfl, whole] at unfinished
      cases unfinished
    · rw [ran] at relation
      have complete := relation.1
      rw [show Frame.plain {} = {} from rfl, show Frame.mode {} = .text from rfl, whole] at complete
      have left : more ++ after = Telnet.textOf .text rest := (Prod.mk.inj complete).2
      exact ⟨found, rest, rfl, marker_of_read relation.1, left ▸ List.suffix_append more after, relation.2⟩

/-- A text without the marker leaves a reading that has kept it. -/
theorem read_of_absent {bytes : List Byte} (absent : ¬ marker <:+: Telnet.textOf .text bytes) :
    ∃ f, read marker true {} bytes = (.unfinished f, []) ∧
      f.text.reverse = Telnet.textOf .text bytes ∧ f.mode = Telnet.modeAfter .text bytes := by
  have relation := read_telnet marker {} bytes
  rcases ran : read marker true {} bytes with ⟨f | text, rest⟩
  · rw [ran] at relation
    obtain ⟨kept, nothing⟩ := kept_of_read relation.1
    exact ⟨f, by rw [nothing], kept, relation.2⟩
  · rw [ran] at relation
    exact absurd ⟨text, _, (marker_of_read relation.1).symm⟩ absent

end Frame

end HartDebug
