/-!
# Patterns

What a pattern finds in a text if matches are tried in order of preference: the leftmost place first, and there
as many characters as possible before fewer, and an optional part before none.  A match that does not work out
further on is taken back.

Where what comes behind a run of characters cannot begin with one of them, or works out behind the whole run,
nothing is ever taken back, and the run can be taken as a whole.

* `Pattern`, `Pattern.matchThen`, `Pattern.search?` — patterns and what they find;
* `skip?`, `skip?_eq_some_iff` — a whole run taken at once;
* `longestFirst_of_whole`, `longestFirst_of_stops`, `longestFirst_of_works` — **where nothing is taken back**.
-/

namespace HartDebug.Text

/-- What can be looked for in a text. -/
inductive Pattern where
  /-- A character of a class. -/
  | one (accepts : Char → Bool)
  /-- Characters of a class, one at least. -/
  | many (accepts : Char → Bool)
  /-- One thing, and another behind it. -/
  | next (first second : Pattern)
  | optional (part : Pattern)
  /-- Something whose text is kept under a number. -/
  | group (number : Nat) (part : Pattern)

/-- The texts that were kept, by their numbers, the last one first. -/
abbrev Groups := List (Nat × List Char)

/-- Take a run of characters of a class, one at least, and go on: behind as many of them as possible for which
this works out. -/
def longestFirst {α : Type} (accepts : Char → Bool) (go : List Char → Option α) : List Char → Option α
  | [] => none
  | c :: rest => if accepts c then longestFirst accepts go rest <|> go rest else none

namespace Pattern

/-- Match the front of a text, with the texts that were kept so far, and go on behind it; the first match that
works out counts. -/
def matchThen {α : Type} : Pattern → (Groups → List Char → Option α) → Groups → List Char → Option α
  | one _, _, _, [] => none
  | one accepts, go, kept, c :: rest => if accepts c then go kept rest else none
  | many accepts, go, kept, text => longestFirst accepts (go kept) text
  | next first second, go, kept, text => first.matchThen (second.matchThen go) kept text
  | optional part, go, kept, text => part.matchThen go kept text <|> go kept text
  | group number part, go, kept, text =>
    part.matchThen (fun kept rest => go ((number, text.take (text.length - rest.length)) :: kept) rest) kept text

/-- What is kept by the first match at the beginning of a text. -/
def matchHere? (p : Pattern) (text : List Char) : Option Groups :=
  p.matchThen (fun kept _ => some kept) [] text

/-- What is kept by the first match at the leftmost place that has one. -/
def search? (p : Pattern) : List Char → Option Groups
  | [] => p.matchHere? []
  | c :: rest => p.matchHere? (c :: rest) <|> p.search? rest

end Pattern

/-! ## Whole runs -/

/-- What comes behind a whole run of characters of a class, one at least. -/
def skip? (accepts : Char → Bool) : List Char → Option (List Char)
  | [] => none
  | c :: rest => if accepts c then some (rest.dropWhile accepts) else none

section

variable {α : Type} {accepts : Char → Bool} {go : List Char → Option α} {text rest : List Char}

theorem orElse_self (found : Option α) : (found <|> found) = found := by
  cases found <;> rfl

/-- **A run is taken as a whole** where going on behind the whole of it leaves nothing to be tried. -/
theorem longestFirst_of_whole
    (whole : ∀ rest, (go (rest.dropWhile accepts) <|> go rest) = go (rest.dropWhile accepts)) :
    longestFirst accepts go text = (skip? accepts text).bind go := by
  induction text with
  | nil => rfl
  | cons c text ih =>
    rw [longestFirst, skip?]
    split
    · rw [ih, Option.bind_some, ← whole]
      cases text with
      | nil =>
        rw [skip?, List.dropWhile_nil, orElse_self]
        rfl
      | cons d text =>
        rw [skip?, List.dropWhile_cons]
        split
        · rfl
        · rw [orElse_self]
          rfl
    · rfl

/-- So it is where what comes behind cannot begin with a character of the run. -/
theorem longestFirst_of_stops (stops : ∀ c rest, accepts c = true → go (c :: rest) = none) :
    longestFirst accepts go text = (skip? accepts text).bind go := by
  refine longestFirst_of_whole fun rest => ?_
  cases rest with
  | nil => rw [List.dropWhile_nil, orElse_self]
  | cons c rest =>
    rw [List.dropWhile_cons]
    split
    · next more =>
      rw [stops c rest more]
      cases go (rest.dropWhile accepts) <;> rfl
    · rw [orElse_self]

/-- So it is where going on always works out. -/
theorem longestFirst_of_works (works : ∀ rest, (go rest).isSome) :
    longestFirst accepts go text = (skip? accepts text).bind go := by
  refine longestFirst_of_whole fun rest => ?_
  obtain ⟨a, found⟩ := Option.isSome_iff_exists.1 (works (rest.dropWhile accepts))
  rw [found]
  rfl

/-- The characters at the beginning of a text, one at least, are a run. -/
theorem begins_eq (accepts : Char → Bool) (text : List Char) (found : List Char → α) :
    (match text.takeWhile accepts with
      | [] => none
      | word => some (found word)) =
      (skip? accepts text).map fun _ => found (text.takeWhile accepts) := by
  cases text with
  | nil => rfl
  | cons c text =>
    rw [skip?]
    split
    · next none =>
      split
      · next begins =>
        rw [List.takeWhile_cons_of_pos begins] at none
        cases none
      · rfl
    · next some_word =>
      split
      · rfl
      · next other =>
        rw [List.takeWhile_cons_of_neg other] at some_word
        exact absurd rfl some_word

/-- The characters of a whole run. -/
theorem takeWhile_append {run : List Char} (each : ∀ c ∈ run, accepts c = true)
    (stops : ∀ c ∈ rest.head?, accepts c = false) : (run ++ rest).takeWhile accepts = run := by
  rw [List.takeWhile_append_of_pos each]
  cases rest with
  | nil => exact List.append_nil run
  | cons d rest =>
    rw [List.takeWhile_cons_of_neg, List.append_nil]
    rw [stops d rfl]
    exact Bool.false_ne_true

/-- What comes behind a whole run. -/
theorem dropWhile_append {run : List Char} (each : ∀ c ∈ run, accepts c = true)
    (stops : ∀ c ∈ rest.head?, accepts c = false) : (run ++ rest).dropWhile accepts = rest := by
  rw [List.dropWhile_append_of_pos each]
  cases rest with
  | nil => rfl
  | cons d rest =>
    rw [List.dropWhile_cons_of_neg]
    rw [stops d rfl]
    exact Bool.false_ne_true

/-- **A whole run** is characters of the class, one at least, with none of them behind. -/
theorem skip?_eq_some_iff :
    skip? accepts text = some rest ↔ ∃ run, run ≠ [] ∧ (∀ c ∈ run, accepts c = true) ∧ text = run ++ rest ∧
      ∀ c ∈ rest.head?, accepts c = false := by
  constructor
  · intro skipped
    cases text with
    | nil => cases skipped
    | cons c text =>
      rw [skip?] at skipped
      split at skipped
      · next begins =>
        cases skipped
        refine ⟨c :: text.takeWhile accepts, List.cons_ne_nil _ _, fun d mem => ?_, ?_, fun d first => ?_⟩
        · rcases List.mem_cons.1 mem with rfl | inside
          · exact begins
          · exact List.all_eq_true.1 List.all_takeWhile d inside
        · rw [List.cons_append, List.takeWhile_append_dropWhile]
        · have stops := List.head?_dropWhile_not accepts text
          rw [first] at stops
          exact stops
      · cases skipped
  · rintro ⟨run, some_run, each, rfl, stops⟩
    obtain ⟨c, run, rfl⟩ := List.exists_cons_of_ne_nil some_run
    rw [List.cons_append, skip?, if_pos (each c List.mem_cons_self),
      dropWhile_append (fun d mem => each d (List.mem_cons_of_mem c mem)) stops]

/-- The text of a run that is kept. -/
theorem take_of_skip? (skipped : skip? accepts text = some rest) :
    text.take (text.length - rest.length) = text.takeWhile accepts := by
  obtain ⟨run, -, each, rfl, stops⟩ := skip?_eq_some_iff.1 skipped
  rw [takeWhile_append each stops, List.length_append, Nat.add_sub_cancel]
  exact List.take_left

end

end HartDebug.Text
