import HartDebug.Proofs.Session.RowPattern
import HartDebug.Proofs.Text.Lines
import HartDebug.Proofs.Wire.InStep

/-!
# The scan chain in a listing

The adapter lists its scan chain for people, one port on a row, and the session reads the name and the
identification of the first port out of it.  Whatever the names, the flags and the blanks in between are, the
row says what is read; and whatever is read stands in the row.

* `ScanChain.Row`, `Row.tapIn?_text` — a row of the table, and **what is read in it**;
* `ScanChain.exists_rows_eq_cons` — **the first row of a listing**;
* `ScanChain.Stands` — what it takes for a port to stand in a row;
* `ScanChain.listing_read` — **what is read in a listing, and when nothing is**.
-/

namespace HartDebug.ScanChain

open Text

/-! ## Rows of the table -/

/-- A blank is no digit of any script. -/
theorem isDecimalDigit_of_blank {c : Char} (blank : isBlank c = true) : isDecimalDigit c = false := by
  rw [Bool.eq_false_iff]
  intro digit
  obtain ⟨first, inside, low, high⟩ := (isDecimalDigit_iff c).1 digit
  have each : ∀ first ∈ digitZeros, ∀ k < 10, isBlank (Char.ofNat (first + k)) = false := by decide +kernel
  have here := each first inside (c.toNat - first) (by omega)
  rw [show first + (c.toNat - first) = c.toNat by omega, Char.ofNat_toNat, blank] at here
  cases here

/-- A row of the table: an index, a name, a flag and a marked number, with blanks between them and perhaps
before them.  Behind the number comes nothing, or a blank and whatever else. -/
structure Row where
  before : List Char
  index : List Char
  toName : List Char
  name : List Char
  toFlag : List Char
  flag : List Char
  toNumber : List Char
  digits : List Char
  rest : List Char
  before_blank : Blank before
  index_digits : ∀ c ∈ index, isDecimalDigit c = true
  toName_blank : Blank toName
  name_solid : Solid name
  toFlag_blank : Blank toFlag
  flag_solid : Solid flag
  toNumber_blank : Blank toNumber
  hex_digits : ∀ c ∈ digits, Numeral.isDigitIn 16 c = true
  some_text : index ≠ [] ∧ toName ≠ [] ∧ name ≠ [] ∧ toFlag ≠ [] ∧ flag ≠ [] ∧ toNumber ≠ [] ∧ digits ≠ []
  short : digits.length ≤ 8
  rest_apart : ∀ c ∈ rest.head?, isBlank c = true

namespace Row

/-- What stands behind the name in a row. -/
def columns (r : Row) : List Char :=
  r.toFlag ++ (r.flag ++ (r.toNumber ++ ('0' :: 'x' :: (r.digits ++ r.rest))))

/-- The text of a row. -/
def text (r : Row) : List Char :=
  r.before ++ (r.index ++ (r.toName ++ (r.name ++ r.columns)))

variable (r : Row)

/-- **The digits of a row are a word.** -/
theorem exists_value : ∃ v : Word, Numeral.natural? 16 r.digits = some v.toNat := by
  obtain ⟨-, -, -, -, -, -, some_digits⟩ := r.some_text
  obtain ⟨n, value, small⟩ := Numeral.exists_natural? some_digits r.hex_digits
  have word : n < 2 ^ 32 := by
    calc n < 16 ^ r.digits.length := small
      _ ≤ 16 ^ 8 := Nat.pow_le_pow_right (by decide) r.short
      _ = 2 ^ 32 := by decide
  exact ⟨BitVec.ofNat 32 n, by rw [value, BitVec.toNat_ofNat, Nat.mod_eq_of_lt word]⟩

/-- Blanks come first behind a field. -/
theorem head_blank {gap : List Char} (some_gap : gap ≠ []) (blank : Blank gap) (rest : List Char) :
    ∀ c ∈ (gap ++ rest).head?, isBlank c = true := by
  obtain ⟨d, gap, rfl⟩ := List.exists_cons_of_ne_nil some_gap
  intro c first
  obtain rfl : d = c := Option.some.inj first
  exact blank _ List.mem_cons_self

/-- **The identification is read.** -/
theorem idcodeAfter?_row {v : Word} (value : Numeral.natural? 16 r.digits = some v.toNat) :
    idcodeAfter? r.columns = some v := by
  obtain ⟨-, -, -, some_toFlag, some_flag, some_toNumber, some_digits⟩ := r.some_text
  have apart : ∀ c ∈ r.rest.head?, Numeral.isDigitIn 16 c = false := by
    intro c first
    have blank := r.rest_apart c first
    rw [Bool.eq_false_iff]
    intro digit
    have letter := isBlank_eq_false (Numeral.toNat_of_isSome_digitIn digit)
    rw [blank] at letter
    cases letter
  have flag : Field r.columns r.flag (r.toNumber ++ ('0' :: 'x' :: (r.digits ++ r.rest))) :=
    ⟨r.toFlag, some_toFlag, r.toFlag_blank, some_flag, r.flag_solid, rfl,
      head_blank some_toNumber r.toNumber_blank _⟩
  have literal : Literal (r.toNumber ++ ('0' :: 'x' :: (r.digits ++ r.rest))) r.digits :=
    ⟨r.toNumber, r.rest, some_toNumber, r.toNumber_blank, some_digits, r.hex_digits, rfl, apart⟩
  exact idcodeAfter?_eq_some_iff.2 ⟨r.flag, _, r.digits, flag, literal, value⟩

/-- The last digit of the index describes the port. -/
theorem described {d : Char} (digit : isDecimalDigit d = true) :
    Described (d :: (r.toName ++ (r.name ++ r.columns))) r.name r.columns := by
  obtain ⟨-, some_toName, some_name, some_toFlag, -, -, -⟩ := r.some_text
  exact ⟨d, _, digit, rfl, ⟨r.toName, some_toName, r.toName_blank, some_name, r.name_solid, rfl,
    head_blank some_toFlag r.toFlag_blank _⟩, List.append_ne_nil_of_left_ne_nil some_toFlag _⟩

end Row

/-! ### The place where a port is found -/

/-- No port is described at a blank. -/
theorem tapIn?_append_of_blank {front : List Char} (blank : Blank front) (rest : List Char) :
    tapIn? (front ++ rest) = tapIn? rest := by
  induction front with
  | nil => rfl
  | cons c front ih =>
    have nothing : tapAt? (c :: (front ++ rest)) = none := by
      rw [tapAt?, isDecimalDigit_of_blank (blank c List.mem_cons_self)]
      rfl
    rw [List.cons_append, tapIn?, nothing]
    exact ih fun d mem => blank d (List.mem_cons_of_mem c mem)

/-- No port is described before the last digit of an index. -/
theorem tapIn?_append_of_digits {front : List Char} (each : ∀ c ∈ front, isDecimalDigit c = true) {d : Char}
    (digit : isDecimalDigit d = true) (rest : List Char) :
    tapIn? (front ++ d :: rest) = tapIn? (d :: rest) := by
  induction front with
  | nil => rfl
  | cons c front ih =>
    have next : ∃ e more, front ++ d :: rest = e :: more ∧ isDecimalDigit e = true := by
      cases front with
      | nil => exact ⟨d, rest, rfl, digit⟩
      | cons e front => exact ⟨e, _, rfl, each e (by simp)⟩
    obtain ⟨e, more, begins, digit'⟩ := next
    have no_blank : isBlank e = false := by
      rw [Bool.eq_false_iff]
      intro blank
      rw [isDecimalDigit_of_blank blank] at digit'
      cases digit'
    have nothing : tapAt? (c :: (front ++ d :: rest)) = none := by
      rw [tapAt?, if_pos (each c List.mem_cons_self), begins, field?, no_blank]
      rfl
    rw [List.cons_append, tapIn?, nothing]
    exact ih fun e mem => each e (List.mem_cons_of_mem c mem)

/-- **What is read in a row of the table** are its name and its number. -/
theorem Row.tapIn?_text (r : Row) {v : Word} (value : Numeral.natural? 16 r.digits = some v.toNat) :
    tapIn? r.text = some ⟨String.ofList r.name, some v⟩ := by
  rcases List.eq_nil_or_concat r.index with none | ⟨front, d, index⟩
  · exact absurd none r.some_text.1
  rw [List.concat_eq_append] at index
  have each := r.index_digits
  rw [index] at each
  have last : isDecimalDigit d = true := each d (by simp)
  have here : tapAt? (d :: (r.toName ++ (r.name ++ r.columns))) = some ⟨String.ofList r.name, some v⟩ :=
    tapAt?_eq_some_iff.2 ⟨_, _, r.described last, by rw [r.idcodeAfter?_row value]⟩
  rw [Row.text, tapIn?_append_of_blank r.before_blank, index, List.append_assoc, List.singleton_append,
    tapIn?_append_of_digits (fun c mem => each c (List.mem_append_left _ mem)) last, tapIn?, here]

/-! ## Listings -/

/-- A row without a carriage return at its end is a row with the same name and number. -/
theorem Row.exists_chomp (r : Row) :
    ∃ r' : Row, r'.text = chomp r.text ∧ r'.name = r.name ∧ r'.digits = r.digits := by
  by_cases ends : r.rest = []
  · -- The row ends in a digit.
    rcases List.eq_nil_or_concat r.digits with none | ⟨front, c, last⟩
    · exact absurd none r.some_text.2.2.2.2.2.2
    have no_return : c ≠ '\r' := by
      rintro rfl
      exact absurd (r.hex_digits '\r' (by rw [last]; simp)) (by decide)
    have split : r.text = r.before ++ (r.index ++ (r.toName ++ (r.name ++ (r.toFlag ++ (r.flag ++
        (r.toNumber ++ ('0' :: 'x' :: front))))))) ++ [c] := by
      simp [Row.text, Row.columns, ends, last]
    exact ⟨r, by rw [split, chomp_concat, if_neg no_return], rfl, rfl⟩
  · have split : ∀ rest, r.before ++ (r.index ++ (r.toName ++ (r.name ++ (r.toFlag ++ (r.flag ++
        (r.toNumber ++ ('0' :: 'x' :: (r.digits ++ rest)))))))) = r.before ++ (r.index ++ (r.toName ++ (r.name ++
        (r.toFlag ++ (r.flag ++ (r.toNumber ++ ('0' :: 'x' :: r.digits))))))) ++ rest := by
      simp
    have apart : ∀ c ∈ (chomp r.rest).head?, isBlank c = true := by
      intro c first
      obtain ⟨more, whole⟩ := isPrefix_chomp r.rest
      refine r.rest_apart c ?_
      rw [← whole, List.head?_append, first]
      rfl
    refine ⟨{ r with rest := chomp r.rest, rest_apart := apart }, ?_, rfl, rfl⟩
    rw [Row.text, Row.text, Row.columns, Row.columns, split, split, chomp_append _ ends]

/-- The row at the beginning of a text is its first line. -/
theorem Row.exists_lines (r : Row) {further : List Char} (one_line : '\n' ∉ r.text)
    (next : ∀ c ∈ further.head?, c = '\n') :
    ∃ (r' : Row) (others : _), lines (r.text ++ further) = r'.text :: others ∧ r'.name = r.name ∧
      r'.digits = r.digits := by
  cases further with
  | nil =>
    have some_text : r.text ≠ [] := by
      rw [Row.text]
      exact List.append_ne_nil_of_right_ne_nil _ (List.append_ne_nil_of_left_ne_nil r.some_text.1 _)
    exact ⟨r, [], by rw [List.append_nil, lines_of_one_line some_text one_line], rfl, rfl⟩
  | cons c further =>
    obtain rfl : c = '\n' := next c rfl
    obtain ⟨r', text, name, digits⟩ := r.exists_chomp
    exact ⟨r', lines further, by rw [lines_append one_line, text], name, digits⟩

/-- Blank lines come before the lines of what is below them. -/
theorem lines_append_blanks {blanks : List (List Char)} (one_line : ∀ line ∈ blanks, '\n' ∉ line)
    (rest : List Char) : lines (blanks.flatMap (· ++ ['\n']) ++ rest) = blanks.map chomp ++ lines rest := by
  induction blanks with
  | nil => rfl
  | cons line blanks ih =>
    rw [List.flatMap_cons, List.append_assoc, List.append_assoc, List.singleton_append,
      lines_append (one_line line List.mem_cons_self),
      ih fun other mem => one_line other (List.mem_cons_of_mem _ mem)]
    rfl

/-- A listing: two lines, blank lines, a row, and whatever comes below it. -/
def listing (first second : List Char) (blanks : List (List Char)) (row further : List Char) : String :=
  String.ofList (first ++ '\n' :: (second ++ '\n' :: (blanks.flatMap (· ++ ['\n']) ++ (row ++ further))))

/-- **The first row of a listing** is the one below its two header lines and the blank lines. -/
theorem exists_rows {first second : List Char} {blanks : List (List Char)} {r : Row} {further : List Char}
    (header : '\n' ∉ first ∧ '\n' ∉ second) (blank : ∀ line ∈ blanks, Blank line ∧ '\n' ∉ line)
    (one_line : '\n' ∉ r.text) (next : ∀ c ∈ further.head?, c = '\n') :
    ∃ (r' : Row) (others : _), rows (listing first second blanks r.text further) = r'.text :: others ∧
      r'.name = r.name ∧ r'.digits = r.digits := by
  obtain ⟨r', others, row, name, digits⟩ := r.exists_lines one_line next
  refine ⟨r', others.filter fun line => !line.all isBlank, ?_, name, digits⟩
  have no_rows : (blanks.map chomp).filter (fun line => !line.all isBlank) = [] := by
    rw [List.filter_eq_nil_iff]
    intro line mem
    obtain ⟨whole, inside, rfl⟩ := List.mem_map.1 mem
    have all_blank : (chomp whole).all isBlank = true :=
      List.all_eq_true.2 fun c mem => (blank whole inside).1 c ((isPrefix_chomp whole).subset mem)
    rw [all_blank]
    decide
  have some_row : (!r'.text.all isBlank) = true := by
    obtain ⟨d, index, split⟩ := List.exists_cons_of_ne_nil r'.some_text.1
    rw [Bool.not_eq_true', List.all_eq_false]
    refine ⟨d, by simp [Row.text, split], fun blank => ?_⟩
    have digit := r'.index_digits d (by simp [split])
    rw [isDecimalDigit_of_blank blank] at digit
    cases digit
  rw [rows, listing, String.toList_ofList, lines_append header.1, lines_append header.2,
    lines_append_blanks fun line mem => (blank line mem).2, row]
  show (blanks.map chomp ++ r'.text :: others).filter _ = _
  rw [List.filter_append, no_rows, List.nil_append]
  exact List.filter_cons_of_pos some_row

/-- **What is read in a listing** are the name and the number of its first row. -/
theorem tapOf_listing {first second : List Char} {blanks : List (List Char)} {r : Row} {further : List Char}
    (header : '\n' ∉ first ∧ '\n' ∉ second) (blank : ∀ line ∈ blanks, Blank line ∧ '\n' ∉ line)
    (one_line : '\n' ∉ r.text) (next : ∀ c ∈ further.head?, c = '\n') {v : Word}
    (value : Numeral.natural? 16 r.digits = some v.toNat) :
    tapOf (listing first second blanks r.text further) = .ok ⟨String.ofList r.name, some v⟩ := by
  obtain ⟨r', others, here, name, digits⟩ := exists_rows header blank one_line next
  rw [← digits] at value
  rw [tapOf, here, ← name]
  dsimp only
  rw [r'.tapIn?_text value]

/-! ## What has been read -/

/-- A port stands in a row: its name is a part of the row without blanks, and its identification is a marked
number in it, of which no digit is left out. -/
structure Stands (tap : Tap) (row : List Char) : Prop where
  some_name : tap.name ≠ ""
  solid : Solid tap.name.toList
  inside : tap.name.toList <:+: row
  number : ∀ w, tap.idcode = some w → ∃ front digits rest, row = front ++ '0' :: 'x' :: (digits ++ rest) ∧
    Numeral.natural? 16 digits = some w.toNat ∧ ∀ c ∈ rest.head?, Numeral.isDigitIn 16 c = false

/-- **A port that is found stands in the row.** -/
theorem stands_of_tapIn? {tap : Tap} {row : List Char} (found : tapIn? row = some tap) : Stands tap row := by
  obtain ⟨part, name, columns, ⟨before, rfl⟩, ⟨d, text, digit, rfl, field, -⟩, rfl⟩ := described_of_tapIn? found
  obtain ⟨gap, -, -, some_name, solid, rfl, -⟩ := field
  refine ⟨fun none => some_name ?_, ?_, ?_, fun w identified => ?_⟩
  · have empty : (String.ofList name).toList = "".toList := congrArg String.toList none
    rw [String.toList_ofList] at empty
    exact empty
  · rw [String.toList_ofList]
    exact solid
  · rw [String.toList_ofList]
    exact ⟨before ++ d :: gap, columns, by simp⟩
  · obtain ⟨flag, middle, digits, ⟨gap', -, -, -, -, rfl, -⟩, literal, value⟩ :=
      idcodeAfter?_eq_some_iff.1 identified
    obtain ⟨gap'', rest, -, -, -, -, rfl, stops⟩ := literal
    exact ⟨before ++ d :: (gap ++ (name ++ (gap' ++ (flag ++ gap'')))), digits, rest, by simp, value, stops⟩

/-- The commands that shift through the port's registers have the name as one of their words, whatever blank it
is that words are taken apart at, and are one line. -/
structure IsOneWord (name : String) : Prop where
  select : ∀ i : Instruction,
    (i.selectCommand name).toList.splitOnP isBlank =
        ["irscan".toList, name.toList, (Hex.text i.opcode.toNat).toList] ∧
      '\n' ∉ (i.selectCommand name).toList
  shift : ∀ (i : Instruction) (value : Word),
    (i.shiftCommand name value).toList.splitOnP isBlank =
        ["drscan".toList, name.toList, (toString i.dataLength).toList, (Hex.text value.toNat).toList] ∧
      '\n' ∉ (i.shiftCommand name value).toList

/-- The marked numbers of commands have no blanks. -/
theorem solid_hexText (n : Nat) : Solid (Hex.text n).toList :=
  Hex.forall_mem_text (by decide) (by decide) n

/-- A text without blanks is one word, and so is the part before a blank. -/
theorem splitOnP_solid {word : List Char} (solid : Solid word) (rest : List Char) :
    (word ++ ' ' :: rest).splitOnP isBlank = word :: rest.splitOnP isBlank :=
  List.splitOnP_append_cons_of_forall_mem solid ' ' (by decide) rest

theorem feed_not_mem {word : List Char} (solid : Solid word) : '\n' ∉ word := fun mem =>
  absurd (solid '\n' mem) (by decide)

/-- **A name without blanks is one word.** -/
theorem isOneWord_of_solid {name : String} (solid : Solid name.toList) : IsOneWord name where
  select i := by
    have command : (i.selectCommand name).toList =
        "irscan".toList ++ ' ' :: (name.toList ++ ' ' :: (Hex.text i.opcode.toNat).toList) := by
      show ("irscan " ++ name ++ " " ++ Hex.text i.opcode.toNat).toList = _
      simp only [String.toList_append, List.append_assoc]
      rfl
    have number := solid_hexText i.opcode.toNat
    rw [command, splitOnP_solid (by decide), splitOnP_solid solid, List.splitOnP_eq_singleton number]
    refine ⟨rfl, ?_⟩
    simp only [List.mem_append, List.mem_cons, not_or]
    exact ⟨by decide, by decide, feed_not_mem solid, by decide, feed_not_mem number⟩
  shift i value := by
    have command : (i.shiftCommand name value).toList =
        "drscan".toList ++ ' ' :: (name.toList ++ ' ' :: ((toString i.dataLength).toList ++
          ' ' :: (Hex.text value.toNat).toList)) := by
      show ("drscan " ++ name ++ " " ++ toString i.dataLength ++ " " ++ Hex.text value.toNat).toList = _
      simp only [String.toList_append, List.append_assoc]
      rfl
    have number := solid_hexText value.toNat
    have length : Solid (toString i.dataLength).toList := by cases i <;> decide
    rw [command, splitOnP_solid (by decide), splitOnP_solid solid, splitOnP_solid length,
      List.splitOnP_eq_singleton number]
    refine ⟨rfl, ?_⟩
    simp only [List.mem_append, List.mem_cons, not_or]
    exact ⟨by decide, by decide, feed_not_mem solid, by decide, feed_not_mem length, by decide,
      feed_not_mem number⟩

/-- **Without a port there is no row, or none is described in the first.** -/
theorem tapOf_eq_error_iff (listing : String) (violation : Violation) :
    tapOf listing = .error violation ↔
      (rows listing = [] ∧ violation = .noTaps listing) ∨
      ∃ row others, rows listing = row :: others ∧
        (∀ part name columns, part <:+ row → ¬ Described part name columns) ∧
        violation = .noTapName (String.ofList row) := by
  rw [tapOf]
  cases rows listing with
  | nil => simp [eq_comm]
  | cons row others =>
    dsimp only
    simp only [reduceCtorEq, false_and, false_or, List.cons.injEq, ← tapIn?_eq_none_iff]
    cases found : tapIn? row with
    | none =>
      constructor
      · rintro refused
        cases refused
        exact ⟨row, others, ⟨rfl, rfl⟩, found, rfl⟩
      · rintro ⟨row', -, ⟨rfl, -⟩, -, rfl⟩
        rfl
    | some tap =>
      constructor
      · exact nofun
      · rintro ⟨row', -, ⟨rfl, -⟩, none, -⟩
        rw [found] at none
        cases none

/-- A port that is read stands in the first row. -/
theorem stands_of_tapOf {listing : String} {tap : Tap} (read : tapOf listing = .ok tap) :
    ∃ row others, rows listing = row :: others ∧ Stands tap row := by
  rw [tapOf] at read
  cases here : rows listing with
  | nil =>
    rw [here] at read
    cases read
  | cons row others =>
    rw [here] at read
    dsimp only at read
    cases found : tapIn? row with
    | none =>
      rw [found] at read
      cases read
    | some tap' =>
      rw [found] at read
      cases read
      exact ⟨row, others, rfl, stands_of_tapIn? found⟩

/-- **The scan chain is read out of every listing that has a row of the table**, below two lines and any blank
ones, and whatever is read stands in the first row below those.  A row is searched for the pattern; the name
that is found is one word of every command that it is written into; and no port is read where there is no row,
or where the first describes none. -/
theorem listing_read :
    (∀ row, tapIn? row = (rowPattern.search? row).map tapOfGroups) ∧
    (∀ (first second : List Char) (blanks : List (List Char)) (r : Row) (further : List Char),
      '\n' ∉ first ∧ '\n' ∉ second → (∀ line ∈ blanks, Blank line ∧ '\n' ∉ line) → '\n' ∉ r.text →
      (∀ c ∈ further.head?, c = '\n') → ∃ v : Word, Numeral.natural? 16 r.digits = some v.toNat ∧
        tapOf (listing first second blanks r.text further) = .ok ⟨String.ofList r.name, some v⟩) ∧
    (∀ listing tap, tapOf listing = .ok tap →
      (∃ row others, rows listing = row :: others ∧ Stands tap row) ∧ IsOneWord tap.name) ∧
    ∀ listing violation, tapOf listing = .error violation ↔
      (rows listing = [] ∧ violation = .noTaps listing) ∨
      ∃ row others, rows listing = row :: others ∧
        (∀ part name columns, part <:+ row → ¬ Described part name columns) ∧
        violation = .noTapName (String.ofList row) := by
  refine ⟨tapIn?_eq_search?, fun first second blanks r further header blank one_line next => ?_,
    fun listing tap read => ?_, tapOf_eq_error_iff⟩
  · obtain ⟨v, value⟩ := r.exists_value
    exact ⟨v, value, tapOf_listing header blank one_line next value⟩
  · obtain ⟨row, others, here, stands⟩ := stands_of_tapOf read
    exact ⟨⟨row, others, here, stands⟩, isOneWord_of_solid stands.solid⟩

/-- A row whose name and flag look like a row of their own is read, below a blank line and with another row below
it, and the number in the name is not taken for the one behind it.  The name is one word. -/
theorem listing_read_of_misleading_row :
    ∃ r : Row, r.text = " 10 cpu.0x1f.7 2\t0x15081a09 0x0 5\r".toList ∧
      tapOf (listing "Name".toList "----".toList [[' ']] r.text ('\n' :: " 11 other 3 0x1".toList)) =
        .ok ⟨"cpu.0x1f.7", some 0x15081a09⟩ ∧
      IsOneWord "cpu.0x1f.7" := by
  let r : Row :=
    { before := [' ']
      index := "10".toList
      toName := [' ']
      name := "cpu.0x1f.7".toList
      toFlag := [' ']
      flag := ['2']
      toNumber := ['\t']
      digits := "15081a09".toList
      rest := ' ' :: "0x0 5\r".toList
      before_blank := by decide
      index_digits := List.all_eq_true.1 (by decide +kernel)
      toName_blank := by decide
      name_solid := by decide
      toFlag_blank := by decide
      flag_solid := by decide
      toNumber_blank := by decide
      hex_digits := List.all_eq_true.1 (by decide)
      some_text := by decide
      short := by decide
      rest_apart := fun c first => by cases first; decide }
  obtain ⟨v, value, read⟩ := listing_read.2.1 "Name".toList "----".toList [[' ']] r
    ('\n' :: " 11 other 3 0x1".toList) (by decide) (by decide) (by decide +kernel) fun c first => by
      cases first
      rfl
  have digits : Numeral.natural? 16 r.digits = some 0x15081a09 := by decide
  obtain rfl : v = 0x15081a09 := BitVec.eq_of_toNat_eq (Option.some.inj (value.symm.trans digits))
  exact ⟨r, rfl, read, (listing_read.2.2.1 _ _ read).2⟩

end HartDebug.ScanChain
