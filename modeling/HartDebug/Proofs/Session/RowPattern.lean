import HartDebug.Proofs.Text.Blanks
import HartDebug.Proofs.Text.Numerals
import HartDebug.Proofs.Text.Patterns
import HartDebug.ScanChain
import Mathlib.Data.List.Infix

/-!
# What is found in a row of the scan chain

A row is read field by field, from the first place on at which it describes a port.  That is what a search for a
pattern finds there, leftmost first and with runs as long as possible, and it can be told from the row without
any searching.

* `ScanChain.Field`, `ScanChain.Literal` — a field among blanks, and a marked number;
* `field?_eq_some_iff`, `marked?_eq_some_iff`, `idcodeAfter?_eq_some_iff` — **what is read field by field**;
* `ScanChain.Described`, `tapAt?_eq_some_iff`, `tapIn?_eq_none_iff` — **where a port is found, and where
  none is**;
* `ScanChain.rowPattern`, `tapIn?_eq_search?` — **a row is searched for the pattern**.
-/

namespace HartDebug.ScanChain

open Text

/-! ## Fields -/

/-- A text begins with blanks and a word that ends with the text or before a blank. -/
def Field (text word rest : List Char) : Prop :=
  ∃ gap, gap ≠ [] ∧ Blank gap ∧ word ≠ [] ∧ Solid word ∧ text = gap ++ (word ++ rest) ∧
    ∀ c ∈ rest.head?, isBlank c = true

/-- A text begins with blanks and a marked number of which these are the digits. -/
def Literal (text digits : List Char) : Prop :=
  ∃ gap rest, gap ≠ [] ∧ Blank gap ∧ digits ≠ [] ∧ (∀ c ∈ digits, Numeral.isDigitIn 16 c = true) ∧
    text = gap ++ ('0' :: 'x' :: (digits ++ rest)) ∧ ∀ c ∈ rest.head?, Numeral.isDigitIn 16 c = false

/-! ### Fields as runs -/

theorem field?_eq (text : List Char) :
    field? text = (skip? isBlank text).bind fun body =>
      (skip? (!isBlank ·) body).map fun rest => (body.takeWhile (!isBlank ·), rest) := by
  cases text with
  | nil => rfl
  | cons c text =>
    rw [skip?, field?.eq_def]
    dsimp only
    split
    · rw [Option.bind_some]
      generalize text.dropWhile isBlank = body
      refine (begins_eq (!isBlank ·) body fun word => (word, body.dropWhile (!isBlank ·))).trans ?_
      refine Option.map_congr fun rest skipped => ?_
      obtain ⟨run, -, each, rfl, stops⟩ := skip?_eq_some_iff.1 skipped
      rw [dropWhile_append each stops]
    · rfl

/-- The digits behind a mark. -/
def digitsBehind? : List Char → Option (List Char)
  | '0' :: 'x' :: body => (skip? (Numeral.isDigitIn 16) body).map fun _ => body.takeWhile (Numeral.isDigitIn 16)
  | _ => none

theorem marked?_eq (text : List Char) : marked? text = (skip? isBlank text).bind digitsBehind? := by
  cases text with
  | nil => rfl
  | cons c text =>
    rw [skip?, marked?.eq_def]
    dsimp only
    split
    · rw [Option.bind_some]
      generalize text.dropWhile isBlank = behind
      by_cases marked : ∃ body, behind = '0' :: 'x' :: body
      · obtain ⟨body, rfl⟩ := marked
        exact begins_eq (Numeral.isDigitIn 16) body id
      · have nothing : digitsBehind? behind = none := by
          unfold digitsBehind?
          split
          · exact absurd ⟨_, rfl⟩ marked
          · rfl
        rw [nothing]
        split
        · exact absurd ⟨_, rfl⟩ marked
        · rfl
    · rfl

/-! ### What fields are -/

variable {text word rest digits columns : List Char}

/-- **The first field of a text**, and what comes behind it. -/
theorem field?_eq_some_iff : field? text = some (word, rest) ↔ Field text word rest := by
  rw [field?_eq, Option.bind_eq_some_iff]
  constructor
  · rintro ⟨body, blanks, found⟩
    obtain ⟨rest', letters, same⟩ := Option.map_eq_some_iff.1 found
    obtain ⟨gap, some_gap, blank, rfl, -⟩ := skip?_eq_some_iff.1 blanks
    obtain ⟨run, some_run, solid, rfl, stops⟩ := skip?_eq_some_iff.1 letters
    rw [takeWhile_append solid stops] at same
    obtain ⟨rfl, rfl⟩ := Prod.mk.inj same
    refine ⟨gap, some_gap, blank, some_run, fun c mem => ?_, rfl, fun c first => ?_⟩
    · have letter := solid c mem
      simpa using letter
    · have stop := stops c first
      simpa using stop
  · rintro ⟨gap, some_gap, blank, some_word, solid, rfl, stops⟩
    have letters : ∀ c ∈ word, (!isBlank c) = true := fun c mem => by rw [solid c mem]; rfl
    have ends : ∀ c ∈ rest.head?, (!isBlank c) = false := fun c first => by rw [stops c first]; rfl
    refine ⟨word ++ rest, skip?_eq_some_iff.2 ⟨gap, some_gap, blank, rfl, fun c first => ?_⟩, ?_⟩
    · obtain ⟨d, word, rfl⟩ := List.exists_cons_of_ne_nil some_word
      obtain rfl : d = c := Option.some.inj first
      exact solid _ List.mem_cons_self
    · rw [skip?_eq_some_iff.2 ⟨word, some_word, letters, rfl, ends⟩, takeWhile_append letters ends]
      rfl

/-- **The digits of a marked number** at the beginning of a text. -/
theorem marked?_eq_some_iff : marked? text = some digits ↔ Literal text digits := by
  rw [marked?_eq, Option.bind_eq_some_iff]
  constructor
  · rintro ⟨body, blanks, found⟩
    obtain ⟨gap, some_gap, blank, rfl, -⟩ := skip?_eq_some_iff.1 blanks
    rw [digitsBehind?.eq_def] at found
    split at found
    · next number =>
      obtain ⟨rest, skipped, same⟩ := Option.map_eq_some_iff.1 found
      obtain ⟨run, some_run, each, rfl, stops⟩ := skip?_eq_some_iff.1 skipped
      rw [takeWhile_append each stops] at same
      subst same
      exact ⟨gap, rest, some_gap, blank, some_run, each, rfl, stops⟩
    · cases found
  · rintro ⟨gap, rest, some_gap, blank, some_digits, each, rfl, stops⟩
    refine ⟨_, skip?_eq_some_iff.2 ⟨gap, some_gap, blank, rfl, fun c first => ?_⟩, ?_⟩
    · cases first
      decide
    · rw [digitsBehind?, skip?_eq_some_iff.2 ⟨digits, some_digits, each, rfl, stops⟩,
        takeWhile_append each stops]
      rfl

/-- Digits have no sign before them. -/
theorem unsigned_of_digits (each : ∀ c ∈ digits, Numeral.isDigitIn 16 c = true) :
    Numeral.unsigned digits = digits := by
  rw [Numeral.unsigned.eq_def]
  split
  · exact absurd (each '+' List.mem_cons_self) (by decide)
  · rfl

/-- Digits are read as their number, if it is small enough. -/
theorem toOption_readNatural_eq_some_iff (each : ∀ c ∈ digits, Numeral.isDigitIn 16 c = true) {n : Nat} :
    (Numeral.readNatural 16 (1 <<< 32) digits).toOption = some n ↔
      Numeral.natural? 16 digits = some n ∧ n < 2 ^ 32 := by
  have accepted : Numeral.readNatural 16 (1 <<< 32) digits = .ok n ↔ _ ∧ n < 2 ^ 32 :=
    Numeral.readNatural_eq_ok_iff (by decide) (by decide)
  rw [unsigned_of_digits each] at accepted
  rw [← accepted]
  cases Numeral.readNatural 16 (1 <<< 32) digits with
  | ok m => simp [Except.toOption]
  | error fault => simp [Except.toOption]

/-- **The identification** is the marked number behind one field. -/
theorem idcodeAfter?_eq_some_iff {w : Word} :
    idcodeAfter? columns = some w ↔ ∃ flag middle digits, Field columns flag middle ∧ Literal middle digits ∧
      Numeral.natural? 16 digits = some w.toNat := by
  simp only [idcodeAfter?, Option.bind_eq_bind, Option.bind_eq_some_iff, Prod.exists, Option.pure_def,
    field?_eq_some_iff, marked?_eq_some_iff, Option.some.injEq]
  constructor
  · rintro ⟨flag, middle, field, digits, literal, n, read, rfl⟩
    obtain ⟨gap, rest, some_gap, blank, some_digits, each, split, stops⟩ := literal
    obtain ⟨value, small⟩ := (toOption_readNatural_eq_some_iff each).1 read
    refine ⟨flag, middle, digits, field, ⟨gap, rest, some_gap, blank, some_digits, each, split, stops⟩, ?_⟩
    rw [value, BitVec.toNat_ofNat, Nat.mod_eq_of_lt small]
  · rintro ⟨flag, middle, digits, field, literal, value⟩
    obtain ⟨gap, rest, some_gap, blank, some_digits, each, split, stops⟩ := literal
    refine ⟨flag, middle, field, digits, ⟨gap, rest, some_gap, blank, some_digits, each, split, stops⟩, w.toNat,
      (toOption_readNatural_eq_some_iff each).2 ⟨value, w.isLt⟩, ?_⟩
    rw [BitVec.ofNat_toNat]
    rfl

/-! ## Rows -/

/-- A text begins with the last digit of an index, the name of a port and something blank behind it. -/
def Described (text name columns : List Char) : Prop :=
  ∃ d rest, isDecimalDigit d = true ∧ text = d :: rest ∧ Field rest name columns ∧ columns ≠ []

/-- **The port at the beginning of a text** is what is described there. -/
theorem tapAt?_eq_some_iff {tap : Tap} :
    tapAt? text = some tap ↔ ∃ name columns, Described text name columns ∧
      tap = ⟨String.ofList name, idcodeAfter? columns⟩ := by
  constructor
  · intro found
    rw [tapAt?.eq_def] at found
    split at found
    · cases found
    · next d rest =>
      split at found
      · next digit =>
        split at found
        · cases found
        · cases found
        · next name columns some_columns field =>
          cases found
          refine ⟨name, columns, ⟨d, rest, digit, rfl, field?_eq_some_iff.1 field, ?_⟩, rfl⟩
          rintro rfl
          exact some_columns rfl
      · cases found
  · rintro ⟨name, columns, ⟨d, rest, digit, rfl, field, some_columns⟩, rfl⟩
    rw [tapAt?, if_pos digit, field?_eq_some_iff.2 field]
    cases columns with
    | nil => exact absurd rfl some_columns
    | cons c columns => rfl

/-- A row is searched from its first place on. -/
theorem tapIn?_eq_findSome? (text : List Char) : tapIn? text = text.tails.findSome? tapAt? := by
  induction text with
  | nil => rfl
  | cons c text ih =>
    rw [List.tails_cons, List.findSome?_cons, ← ih, tapIn?]
    cases tapAt? (c :: text) <;> rfl

/-- A row without a port is one in which none is described. -/
theorem tapIn?_eq_none_iff :
    tapIn? text = none ↔ ∀ part name columns, part <:+ text → ¬ Described part name columns := by
  rw [tapIn?_eq_findSome?, List.findSome?_eq_none_iff]
  constructor
  · intro nowhere part name columns inside described
    have none := nowhere part ((List.mem_tails part text).2 inside)
    rw [tapAt?_eq_some_iff.2 ⟨name, columns, described, rfl⟩] at none
    cases none
  · intro nowhere part inside
    cases found : tapAt? part with
    | none => rfl
    | some tap =>
      obtain ⟨name, columns, described, -⟩ := tapAt?_eq_some_iff.1 found
      exact absurd described (nowhere part name columns ((List.mem_tails part text).1 inside))

/-- A port that is found is described in the row. -/
theorem described_of_tapIn? {tap : Tap} (found : tapIn? text = some tap) :
    ∃ part name columns, part <:+ text ∧ Described part name columns ∧
      tap = ⟨String.ofList name, idcodeAfter? columns⟩ := by
  rw [tapIn?_eq_findSome?] at found
  obtain ⟨part, inside, here⟩ := List.exists_of_findSome?_eq_some found
  obtain ⟨name, columns, described, same⟩ := tapAt?_eq_some_iff.1 here
  exact ⟨part, name, columns, (List.mem_tails part text).1 inside, described, same⟩

/-! ## The pattern of a row -/

/-- A marked number, which is kept. -/
def literalPattern : Pattern :=
  .group 2 (.next (.one (· == '0')) (.next (.one (· == 'x')) (.many (Numeral.isDigitIn 16))))

/-- The columns behind a port's name: a flag and a marked number. -/
def numberPattern : Pattern :=
  .next (.many (!isBlank ·)) (.next (.many isBlank) literalPattern)

/-- What stands behind a name: something blank, and a flag with a marked number if they are there. -/
def columnsPattern : Pattern :=
  .next (.many isBlank) (.optional numberPattern)

/-- A name, which is kept, and what stands behind it. -/
def namePattern : Pattern :=
  .next (.group 1 (.many (!isBlank ·))) columnsPattern

/-- A row: the last digit of an index, and a name behind blanks. -/
def rowPattern : Pattern :=
  .next (.one isDecimalDigit) (.next (.many isBlank) namePattern)

/-- A number without its marks. -/
def withoutMarks : List Char → List Char
  | '0' :: 'x' :: rest => withoutMarks rest
  | text => text

/-- The port that the kept texts describe. -/
def tapOfGroups (groups : Groups) : Tap where
  name := String.ofList ((groups.lookup 1).getD [])
  idcode := (groups.lookup 2).bind fun number =>
    (Numeral.readNatural 16 (1 <<< 32) (withoutMarks number)).toOption.map (BitVec.ofNat 32)

/-- A run of other characters does not begin here. -/
theorem longestFirst_of_other {α : Type} {accepts : Char → Bool} {go : List Char → Option α} {c : Char}
    (other : accepts c = false) (rest : List Char) : longestFirst accepts go (c :: rest) = none := by
  rw [longestFirst, if_neg]
  rw [other]
  exact Bool.false_ne_true

/-- What is kept of a marked number. -/
theorem match_literalPattern (kept : Groups) (text : List Char) :
    literalPattern.matchThen (fun kept _ => some kept) kept text =
      (digitsBehind? text).map fun digits => (2, '0' :: 'x' :: digits) :: kept := by
  rw [literalPattern, Pattern.matchThen, Pattern.matchThen, digitsBehind?.eq_def]
  split
  · next body =>
    rw [Pattern.matchThen, if_pos (by decide), Pattern.matchThen, Pattern.matchThen, if_pos (by decide),
      Pattern.matchThen, longestFirst_of_works fun _ => rfl]
    cases skipped : skip? (Numeral.isDigitIn 16) body with
    | none => rfl
    | some rest =>
      obtain ⟨run, -, each, rfl, stops⟩ := skip?_eq_some_iff.1 skipped
      have size : ('0' :: 'x' :: (run ++ rest)).length - rest.length = ('0' :: 'x' :: run).length := by
        simp only [List.length_cons, List.length_append]
        omega
      rw [Option.bind_some, size, takeWhile_append each stops]
      show some ((2, (('0' :: 'x' :: run) ++ rest).take _) :: kept) = _
      rw [List.take_left]
      rfl
  · next other =>
    cases text with
    | nil => rfl
    | cons c text =>
      rw [Pattern.matchThen]
      split
      · next zero =>
        cases text with
        | nil => rfl
        | cons d text =>
          rw [Pattern.matchThen, Pattern.matchThen]
          split
          · next mark =>
            rw [beq_iff_eq] at zero mark
            exact absurd (by rw [zero, mark]) (other text)
          · rfl
      · rfl

/-- What the columns behind a name keep. -/
theorem match_numberPattern (kept : Groups) (text : List Char) :
    numberPattern.matchThen (fun kept _ => some kept) kept text =
      (skip? (!isBlank ·) text).bind fun behind =>
        (marked? behind).map fun digits => (2, '0' :: 'x' :: digits) :: kept := by
  rw [numberPattern, Pattern.matchThen, Pattern.matchThen, longestFirst_of_stops]
  · refine Option.bind_congr fun behind _ => ?_
    rw [Pattern.matchThen, Pattern.matchThen, longestFirst_of_stops, marked?_eq]
    · rw [Option.map_bind]
      exact Option.bind_congr fun body _ => match_literalPattern kept body
    · intro c rest blank
      rw [match_literalPattern, digitsBehind?.eq_def]
      split
      · next zero =>
        cases zero
        exact absurd blank (by decide)
      · rfl
  · intro c rest letter
    rw [Pattern.matchThen, Pattern.matchThen, longestFirst_of_other]
    simpa using letter

/-- What stands behind a name keeps a number, or nothing. -/
theorem match_columnsPattern (kept : Groups) (text : List Char) :
    columnsPattern.matchThen (fun kept _ => some kept) kept text =
      (skip? isBlank text).map fun columns =>
        (numberPattern.matchThen (fun kept _ => some kept) kept columns).getD kept := by
  have optional (columns : List Char) :
      (Pattern.optional numberPattern).matchThen (fun kept _ => some kept) kept columns =
        some ((numberPattern.matchThen (fun kept _ => some kept) kept columns).getD kept) := by
    rw [Pattern.matchThen]
    cases numberPattern.matchThen (fun kept _ => some kept) kept columns <;> rfl
  rw [columnsPattern, Pattern.matchThen, Pattern.matchThen, longestFirst_of_works]
  · cases skip? isBlank text with
    | none => rfl
    | some columns => exact optional columns
  · intro columns
    rw [optional]
    rfl

/-- A name is kept. -/
theorem match_namePattern (kept : Groups) (text : List Char) :
    namePattern.matchThen (fun kept _ => some kept) kept text =
      (skip? (!isBlank ·) text).bind fun columns =>
        columnsPattern.matchThen (fun kept _ => some kept) ((1, text.takeWhile (!isBlank ·)) :: kept)
          columns := by
  rw [namePattern, Pattern.matchThen, Pattern.matchThen, Pattern.matchThen, longestFirst_of_stops]
  · refine Option.bind_congr fun columns skipped => ?_
    rw [take_of_skip? skipped]
  · intro c rest letter
    rw [match_columnsPattern, skip?, if_neg]
    · rfl
    · simpa using letter

/-- A number behind its mark has no other mark. -/
theorem withoutMarks_of_literal {digits : List Char} (literal : Literal text digits) :
    withoutMarks ('0' :: 'x' :: digits) = digits := by
  obtain ⟨-, -, -, -, -, each, -⟩ := literal
  rw [withoutMarks, withoutMarks.eq_def]
  split
  · exact absurd (each 'x' (by simp)) (by decide)
  · rfl

theorem idcodeAfter?_eq (text : List Char) :
    idcodeAfter? text = (skip? isBlank text).bind fun columns => (skip? (!isBlank ·) columns).bind fun behind =>
      (marked? behind).bind fun digits =>
        (Numeral.readNatural 16 (1 <<< 32) digits).toOption.map (BitVec.ofNat 32) := by
  rw [idcodeAfter?, field?_eq]
  cases skip? isBlank text with
  | none => rfl
  | some columns =>
    rw [Option.bind_some, Option.bind_some]
    cases skip? (!isBlank ·) columns with
    | none => rfl
    | some behind =>
      rw [Option.map_some, Option.bind_some]
      show (marked? behind).bind _ = _
      refine Option.bind_congr fun digits _ => ?_
      cases (Numeral.readNatural 16 (1 <<< 32) digits).toOption <;> rfl

/-- The port of a name that was kept, with what its columns keep. -/
theorem tapOfGroups_columns {name columns : List Char} (skipped : skip? isBlank text = some columns) :
    tapOfGroups ((numberPattern.matchThen (fun kept _ => some kept) [(1, name)] columns).getD [(1, name)]) =
      ⟨String.ofList name, idcodeAfter? text⟩ := by
  rw [match_numberPattern, idcodeAfter?_eq, skipped, Option.bind_some]
  cases skip? (!isBlank ·) columns with
  | none => rfl
  | some behind =>
    rw [Option.bind_some, Option.bind_some]
    cases found : marked? behind with
    | none => rfl
    | some digits =>
      rw [Option.map_some, Option.getD_some, Option.bind_some, tapOfGroups]
      show (⟨String.ofList name, (Numeral.readNatural 16 (1 <<< 32)
        (withoutMarks ('0' :: 'x' :: digits))).toOption.map (BitVec.ofNat 32)⟩ : Tap) = _
      rw [withoutMarks_of_literal (marked?_eq_some_iff.1 found)]

/-- **The pattern at a place of a row** finds the port that is described there. -/
theorem map_matchHere? (text : List Char) : (rowPattern.matchHere? text).map tapOfGroups = tapAt? text := by
  cases text with
  | nil => rfl
  | cons d rest =>
    rw [Pattern.matchHere?, rowPattern, Pattern.matchThen, Pattern.matchThen, tapAt?]
    split
    · rw [Pattern.matchThen, Pattern.matchThen, longestFirst_of_stops, field?_eq]
      · cases skip? isBlank rest with
        | none => rfl
        | some body =>
          rw [Option.bind_some, Option.bind_some, match_namePattern]
          cases letters : skip? (!isBlank ·) body with
          | none => rfl
          | some columns =>
            rw [Option.bind_some, Option.map_some, match_columnsPattern]
            obtain ⟨-, -, -, -, stops⟩ := skip?_eq_some_iff.1 letters
            cases columns with
            | nil => rfl
            | cons c columns =>
              have blank : isBlank c = true := by simpa using stops c rfl
              have skipped : skip? isBlank (c :: columns) = some (columns.dropWhile isBlank) := if_pos blank
              rw [skipped]
              exact congrArg some (tapOfGroups_columns skipped)
      · intro c rest blank
        rw [match_namePattern, skip?, if_neg]
        · rfl
        · simpa using blank
    · rfl

/-- **A row is searched for the pattern**: the leftmost place counts, and there the longest runs. -/
theorem tapIn?_eq_search? (row : List Char) : tapIn? row = (rowPattern.search? row).map tapOfGroups := by
  induction row with
  | nil => exact (map_matchHere? []).symm
  | cons c row ih =>
    rw [tapIn?, Pattern.search?, ih, ← map_matchHere?]
    cases rowPattern.matchHere? (c :: row) <;> rfl

end HartDebug.ScanChain
