import HartDebug.CommandLine.Commands
import HartDebug.Proofs.Session.RegisterFile
import HartDebug.Proofs.Text.Numerals

/-!
# Numbers as they are written

Which texts of the command line are numbers, which number each of them is, and what the others are refused
for.  Underscores mean nothing behind the mark of a base, and what the program prints for the value of a
register is among the texts that it reads.

* `Number.form`, `Number.digits` — a text by its mark, its base and its digits;
* `Number.Spaced` — a text with underscores put in;
* `Number.readValue_eq_ok_iff`, `Number.readWord_eq_ok_iff` — **the numbers**;
* `Number.fault_of_readValue` — **the refusals**;
* `Number.readValue_text`, `Number.readValue_padded` — **what is printed is read back**;
* `Number.readValue_of_spaced` — **underscores mean nothing**.
-/

namespace HartDebug

namespace Number

open Numeral

/-- How a text writes a number: its base, the mark of the base, and what stands behind the mark. -/
structure Form where
  base : Nat
  mark : List Char
  body : List Char

/-- The form of a text: in base sixteen behind one of two marks, and in base ten without any. -/
def form : List Char → Form
  | '0' :: 'x' :: body => ⟨16, ['0', 'x'], body⟩
  | '0' :: 'X' :: body => ⟨16, ['0', 'X'], body⟩
  | text => ⟨10, [], text⟩

/-- The digits of a text that is a number: what stands behind its mark, without underscores and without a plus
sign before the rest. -/
def digits (text : List Char) : List Char :=
  unsigned (dropUnderscores (form text).body)

/-- A text with underscores put in, anywhere and as many as one likes. -/
inductive Spaced : List Char → List Char → Prop where
  | nil : Spaced [] []
  | char (c : Char) {text spaced : List Char} (rest : Spaced text spaced) : Spaced (c :: text) (c :: spaced)
  | underscore {text spaced : List Char} (rest : Spaced text spaced) : Spaced text ('_' :: spaced)

/-! ### Forms -/

theorem form_of_unmarked {text : List Char} (lower : ∀ body, text ≠ '0' :: 'x' :: body)
    (upper : ∀ body, text ≠ '0' :: 'X' :: body) : form text = ⟨10, [], text⟩ := by
  unfold form
  split
  · exact absurd rfl (lower _)
  · exact absurd rfl (upper _)
  · rfl

theorem base_form_pos (text : List Char) : 0 < (form text).base := by
  unfold form
  split <;> exact Nat.succ_pos _

/-- The mark and what stands behind it are the text. -/
theorem mark_append_body (text : List Char) : (form text).mark ++ (form text).body = text := by
  unfold form
  split <;> rfl

/-- A number is read in its base, from what stands behind its mark. -/
theorem readBelow_eq (limit : Nat) (text : List Char) :
    readBelow limit text = readNatural (form text).base limit (dropUnderscores (form text).body) := by
  unfold readBelow
  split
  · rfl
  · rfl
  · next lower upper => rw [form_of_unmarked lower upper]

/-- A text is a number below the limit if its digits make it up. -/
theorem readBelow_eq_ok_iff {limit n : Nat} (hlimit : 0 < limit) (text : List Char) :
    readBelow limit text = .ok n ↔ natural? (form text).base (digits text) = some n ∧ n < limit := by
  rw [readBelow_eq, readNatural_eq_ok_iff (base_form_pos text) hlimit, digits]

/-! ### Numbers and refusals -/

theorem values_pos : 0 < 1 <<< 128 := by decide

theorem readValue_eq_map (text : String) :
    readValue text =
      ((readBelow (1 <<< 128) text.toList).map (BitVec.ofNat 128)).mapError (.notNumber text) := by
  rw [readValue, readNat]
  cases readBelow (1 <<< 128) text.toList <;> rfl

theorem readBelow_values_eq_ok_iff (text : String) (value : Value) :
    readValue text = .ok value ↔ readBelow (1 <<< 128) text.toList = .ok value.toNat := by
  rw [readValue_eq_map]
  cases read : readBelow (1 <<< 128) text.toList with
  | error fault => exact ⟨nofun, nofun⟩
  | ok n =>
    have small : n < 2 ^ 128 := ((readBelow_eq_ok_iff values_pos text.toList).1 read).2
    show Except.ok (BitVec.ofNat 128 n) = Except.ok value ↔ _
    rw [Except.ok.injEq, Except.ok.injEq, ← BitVec.toNat_inj, BitVec.toNat_ofNat, Nat.mod_eq_of_lt small]

/-- **The text is the number that its digits make up**, which has to be a value of 128 bits. -/
theorem readValue_eq_ok_iff (text : String) (value : Value) :
    readValue text = .ok value ↔
      natural? (form text.toList).base (digits text.toList) = some value.toNat := by
  rw [readBelow_values_eq_ok_iff, readBelow_eq_ok_iff values_pos]
  exact and_iff_left value.isLt

/-- **What a text is refused for**, if there is something behind its mark and its sign. -/
theorem fault_of_readValue {text : String} (some_digit : digits text.toList ≠ []) {fault : Fault}
    (refused : readValue text = .error fault) :
    ∃ n, valueFrom? (form text.toList).base 0
        (leadingDigits (form text.toList).base (digits text.toList)) = some n ∧
      fault = .notNumber text (if 2 ^ 128 ≤ n then .tooLarge else .invalidDigit) := by
  rw [readValue_eq_map] at refused
  cases read : readBelow (1 <<< 128) text.toList with
  | ok n =>
    rw [read] at refused
    cases refused
  | error found =>
    rw [read] at refused
    cases refused
    rw [readBelow_eq] at read
    obtain ⟨n, leading, fault_eq⟩ :=
      fault_of_readNatural (base_form_pos text.toList) values_pos some_digit read
    exact ⟨n, leading, congrArg (Fault.notNumber text) fault_eq⟩

/-- **A word is a value that is small enough.** -/
theorem readWord_eq (text : String) :
    readWord text =
      match readValue text with
      | .ok value => if value.toNat < 2 ^ 32 then .ok (value.setWidth 32) else .error (.notWord value.toNat)
      | .error fault => .error fault := by
  rw [readValue_eq_map, readWord, readNat]
  cases read : readBelow (1 <<< 128) text.toList with
  | error fault => rfl
  | ok n =>
    have small : n < 2 ^ 128 := ((readBelow_eq_ok_iff values_pos text.toList).1 read).2
    have value : (BitVec.ofNat 128 n).toNat = n := by rw [BitVec.toNat_ofNat, Nat.mod_eq_of_lt small]
    have word : (BitVec.ofNat 128 n).setWidth 32 = BitVec.ofNat 32 n := by
      rw [← BitVec.ofNat_toNat, value]
    show (if n < 1 <<< 32 then Except.ok (BitVec.ofNat 32 n) else .error (Fault.notWord n)) =
      if (BitVec.ofNat 128 n).toNat < 2 ^ 32 then .ok ((BitVec.ofNat 128 n).setWidth 32)
      else .error (Fault.notWord (BitVec.ofNat 128 n).toNat)
    rw [value, word, Nat.one_shiftLeft]

/-! ### What is printed -/

/-- There are no underscores among digits. -/
theorem dropUnderscores_of_digits {base sofar n : Nat} {text : List Char}
    (value : valueFrom? base sofar text = some n) : dropUnderscores text = text := by
  refine List.filter_eq_self.2 fun c inside => ?_
  have digit := isSome_digitIn_of_valueFrom? value inside
  rw [bne_iff_ne]
  rintro rfl
  have none : digitValue '_' = none := by decide
  rw [digitIn, none] at digit
  cases digit

/-- A value that is written in base sixteen is read as this value. -/
theorem readValue_of_hex (value : Value) {text : List Char} (some_text : text ≠ [])
    (digits : valueFrom? 16 0 text = some value.toNat) :
    readValue (String.ofList ('0' :: 'x' :: text)) = .ok value := by
  rw [readBelow_values_eq_ok_iff, String.toList_ofList]
  show readNatural 16 (1 <<< 128) (dropUnderscores text) = .ok value.toNat
  rw [dropUnderscores_of_digits digits]
  exact readNatural_of_valueFrom? (by decide) some_text digits value.isLt

/-- **A value that is printed is read back.** -/
theorem readValue_text (value : Value) : readValue (Hex.text value.toNat) = .ok value := by
  have digits := valueFrom?_digits id digitIn_hexDigit 0 value.toNat
  rw [List.map_id, Nat.zero_mul, Nat.zero_add] at digits
  exact readValue_of_hex value (Hex.digits_ne_nil _) digits

/-- **So is one that is printed with leading zeros.** -/
theorem readValue_padded (count : Nat) (value : Value) :
    readValue (Hex.padded count value.toNat) = .ok value := by
  have digits := valueFrom?_paddedDigits id digitIn_hexDigit count value.toNat
  rw [List.map_id] at digits
  exact readValue_of_hex value (List.append_ne_nil_of_right_ne_nil _ (Hex.digits_ne_nil _)) digits

section Printing

variable {ε σ τ α β : Type}

/-- An action that succeeds has said something or other. -/
theorem exists_run_of_exec {x : Action ε σ α} {s s' : σ} {a : α} (ran : x.exec s = (.ok a, s')) :
    ∃ said, x.run s = ⟨.ok a, s', said⟩ := by
  obtain ⟨outcome, state⟩ := Prod.mk.inj ran
  exact ⟨(x.run s).said, by rw [← outcome, ← state]⟩

/-- An action after one that succeeds adds to what was said. -/
theorem run_bind_ok {x : Action ε σ α} {s s' : σ} {a : α} {said : List Utterance}
    (ran : x.run s = ⟨.ok a, s', said⟩) (f : α → Action ε σ β) :
    (x >>= f).run s = ⟨((f a).run s').outcome, ((f a).run s').state, said ++ ((f a).run s').said⟩ := by
  show Action.bind x f s = _
  unfold Action.bind
  rw [show x s = _ from ran]
  rfl

theorem run_mapError_ok {x : Action DebugError σ α} {s s' : σ} {a : α} {said : List Utterance}
    (ran : x.run s = ⟨.ok a, s', said⟩) (f : DebugError → Report) :
    (x.mapError f).run s = ⟨.ok a, s', said⟩ := by
  show Action.mapError f x s = _
  unfold Action.mapError
  rw [show x s = _ from ran]
  rfl

/-- Lines are printed in their order. -/
theorem said_forM_printLine (line : α → String) (entries : List α) (s : σ) :
    ((entries.forM fun entry => Action.printLine (line entry) : Action ε σ Unit).run s).said =
      entries.map fun entry => .print (line entry ++ "\n") := by
  induction entries with
  | nil => rfl
  | cons entry rest ih =>
    have printed : (Action.printLine (line entry) : Action ε σ Unit).run s =
      ⟨.ok (), s, [.print (line entry ++ "\n")]⟩ := rfl
    show ((Action.printLine (line entry) >>= fun _ => rest.forM fun entry => Action.printLine (line entry) :
      Action ε σ Unit).run s).said = _
    rw [run_bind_ok printed, ih]
    rfl

/-- The text holds a numeral that is read as the value, between a front and a back. -/
def Holds (value : Value) (front back text : String) : Prop :=
  ∃ numeral, readValue numeral = .ok value ∧ text = front ++ numeral ++ back

/-- What the program prints for the values of registers, as soon as it has read them, holds numerals that are
read as these values: on a line of its own, on the lines of a dump, and in the objects of a document. -/
structure PrintsBack (τ : Type) [Transport τ] : Prop where
  read : ∀ {register : String} {s s' : Session τ} {value : Value} {said : List Utterance},
    (Session.readRegister register none).run s = ⟨.ok value, s', said⟩ →
      ∃ line, ((Subcommand.run (.read register)).run s).said = said ++ [.print line] ∧
        Holds value (register ++ " = ") "\n" line
  dump : ∀ {float : Bool} {s s' : Session τ} {entries : List (String × Option Value)} {said : List Utterance},
    (Session.dumpRegisters (if float then .float else .integer) none).run s = ⟨.ok entries, s', said⟩ →
      ∃ lines : (String × Option Value) → String,
        ((Subcommand.run (.dump float false)).run s).said = said ++ entries.map (.print <| lines ·) ∧
          ∀ name value, Holds value (Subcommand.alignRight 4 name ++ ": ") "\n" (lines (name, some value))
  document : ∀ {float : Bool} {s s' : Session τ} {entries : List (String × Option Value)}
    {said : List Utterance},
    (Session.dumpRegisters (if float then .float else .integer) none).run s = ⟨.ok entries, s', said⟩ →
      ((Subcommand.run (.dump float true)).run s).said = said ++ [.print (Subcommand.jsonText entries ++ "\n")] ∧
        ∀ name value, Holds value ("  \x7b\n    \"register\": \"" ++ name ++ "\",\n    \"value\": " ++ "\"")
          ("\"" ++ "\n  \x7d") (Subcommand.jsonEntry (name, some value))

theorem printsBack (τ : Type) [Transport τ] : PrintsBack τ where
  read {register s s' value said} read := by
    refine ⟨_, ?_, Hex.text value.toNat, readValue_text value, rfl⟩
    show ((Subcommand.runRead register).run s).said = _
    rw [Subcommand.runRead, Report.during, run_bind_ok (run_mapError_ok read _)]
    rfl
  dump {float s s' entries said} read := by
    refine ⟨fun entry => Subcommand.dumpLine (s'.width.bits / 4) entry ++ "\n", ?_, fun name value =>
      ⟨Hex.padded (s'.width.bits / 4) value.toNat, readValue_padded _ value, rfl⟩⟩
    have here : (get : Action Report (Session τ) (Session τ)).run s' = ⟨.ok s', s', []⟩ := rfl
    show ((Subcommand.runDump float false).run s).said = _
    rw [Subcommand.runDump, Report.of, run_bind_ok (run_mapError_ok read _)]
    show said ++ (Action.run (get >>= _) s').said = _
    rw [run_bind_ok here, said_forM_printLine]
    rfl
  document {float s s' entries said} read := by
    refine ⟨?_, fun name value => ⟨Hex.text value.toNat, readValue_text value, ?_⟩⟩
    · show ((Subcommand.runDump float true).run s).said = _
      rw [Subcommand.runDump, Report.of, run_bind_ok (run_mapError_ok read _)]
      rfl
    · -- The literals are left alone: only the brackets around them differ.
      have regrouped : ∀ front quote numeral back : String, front ++ (quote ++ numeral ++ quote) ++ back =
          front ++ quote ++ numeral ++ (quote ++ back) := fun _ _ _ _ => by simp only [String.append_assoc]
      exact regrouped _ "\"" (Hex.text value.toNat) _

end Printing

/-! ### Underscores -/

theorem dropUnderscores_of_spaced {text spaced : List Char} (h : Spaced text spaced) :
    dropUnderscores spaced = dropUnderscores text := by
  induction h with
  | nil => rfl
  | char c rest ih =>
    simp only [dropUnderscores] at ih ⊢
    rw [List.filter_cons, List.filter_cons, ih]
  | underscore rest ih => exact ih

/-- Underscores do not bring a mark about: its two characters would have been there before. -/
theorem form_of_spaced {text spaced : List Char} (h : Spaced (form text).body spaced) :
    form ((form text).mark ++ spaced) = { form text with body := spaced } := by
  revert h
  unfold form
  split
  · exact fun _ => rfl
  · exact fun _ => rfl
  · next lower upper =>
    intro h
    refine form_of_unmarked (fun body marked => ?_) fun body marked => ?_
    · obtain rfl : spaced = '0' :: 'x' :: body := marked
      cases h with
      | char _ rest => cases rest with
        | char _ rest => exact lower _ rfl
    · obtain rfl : spaced = '0' :: 'X' :: body := marked
      cases h with
      | char _ rest => cases rest with
        | char _ rest => exact upper _ rfl

/-- **Underscores mean nothing behind the mark of a number**, where it has one. -/
theorem readBelow_of_spaced (limit : Nat) {text spaced : List Char} (h : Spaced (form text).body spaced) :
    readBelow limit ((form text).mark ++ spaced) = readBelow limit text := by
  rw [readBelow_eq, readBelow_eq, form_of_spaced h, dropUnderscores_of_spaced h]

theorem readValue_of_spaced (text : String) {spaced : List Char}
    (h : Spaced (form text.toList).body spaced) (value : Value) :
    readValue (String.ofList ((form text.toList).mark ++ spaced)) = .ok value ↔ readValue text = .ok value := by
  rw [readBelow_values_eq_ok_iff, readBelow_values_eq_ok_iff, String.toList_ofList, readBelow_of_spaced _ h]

/-- **Numbers as they are written.**  A text is the value that the digits behind its mark and its sign make up,
underscores left out; a text that is none is refused for what comes first in it, a digit with which the value
is too large or a character that is no digit.  A word is a value of 32 bits.  What reading a register and
dumping a group print for a value is read as this value, and underscores change nothing. -/
theorem numbers_as_written (text : String) :
    (form text.toList).mark ++ (form text.toList).body = text.toList ∧
    (∀ value, readValue text = .ok value ↔
      natural? (form text.toList).base (digits text.toList) = some value.toNat) ∧
    (digits text.toList ≠ [] → ∀ fault, readValue text = .error fault →
      ∃ n, valueFrom? (form text.toList).base 0
          (leadingDigits (form text.toList).base (digits text.toList)) = some n ∧
        fault = .notNumber text (if 2 ^ 128 ≤ n then .tooLarge else .invalidDigit)) ∧
    (readWord text =
      match readValue text with
      | .ok value => if value.toNat < 2 ^ 32 then .ok (value.setWidth 32) else .error (.notWord value.toNat)
      | .error fault => .error fault) ∧
    (∀ (τ : Type) [Transport τ], PrintsBack τ) ∧
    ∀ spaced, Spaced (form text.toList).body spaced → ∀ value,
      readValue (String.ofList ((form text.toList).mark ++ spaced)) = .ok value ↔ readValue text = .ok value :=
  ⟨mark_append_body text.toList, readValue_eq_ok_iff text,
    fun some_digit _ refused => fault_of_readValue some_digit refused, readWord_eq text,
    fun τ _ => printsBack τ, fun _ spaced => readValue_of_spaced text spaced⟩

/-- A number with underscores put in, a text with a digit too many before its letter, and the line that is printed
for the stack pointer of a module. -/
theorem numbers_as_written_of_stack_pointer :
    let huge := "0x1_00000000_00000000_00000000_00000000g"
    let m : SimulatedModule := { connected := true, busyReads := 1, registers := { entries := [(0x1002, 0x7f)] } }
    let s : Session SimulatedModule := .fresh m {} { clock := .steady 1 (by decide) }
    readValue "0x__7_F" = .ok 0x7f ∧ readValue huge = .error (.notNumber huge .tooLarge) ∧
      ∃ said line, ((Subcommand.run (.read "sp")).run s).said = said ++ [.print line] ∧
        Holds 0x7f "sp = " "\n" line := by
  intro huge m s
  have spaced : Spaced (form "0x7F".toList).body "__7_F".toList :=
    .underscore (.underscore (.char '7' (.underscore (.char 'F' .nil))))
  have plain : readValue "0x7F" = .ok 0x7f := by decide +kernel
  refine ⟨((numbers_as_written "0x7F").2.2.2.2.2 _ spaced 0x7f).2 plain, ?_, ?_⟩
  · cases refused : readValue huge with
    | ok value =>
      have read := ((numbers_as_written huge).2.1 value).1 refused
      have none : natural? (form huge.toList).base (digits huge.toList) = none := by decide +kernel
      cases none.symm.trans read
    | error fault =>
      obtain ⟨n, leading, rfl⟩ := (numbers_as_written huge).2.2.1 (by decide +kernel) fault refused
      have large : valueFrom? (form huge.toList).base 0
          (leadingDigits (form huge.toList).base (digits huge.toList)) = some (2 ^ 128) := by decide +kernel
      obtain rfl : 2 ^ 128 = n := Option.some.inj (large.symm.trans leading)
      rfl
  · have listed : ("X2", 0x1002) ∈ Catalog.Standard.registers := by decide +kernel
    have sp : Catalog.standard.resolve "sp" = .ok ⟨"X2", 0x1002, none⟩ :=
      Catalog.resolve_of_alias (by decide +kernel) listed
    have drains : s.StartsInTime := by
      intro i reads
      obtain rfl : i = 0 := Nat.lt_one_iff.1 reads
      decide
    have read := Session.exec_readRegister rfl ⟨rfl, rfl, rfl⟩ (Session.locate_of_resolve sp s none)
      List.not_mem_nil drains
    obtain ⟨said, ran⟩ := exists_run_of_exec read
    have held : s.transport.registers.get 0x1002 &&& Value.lowMask 64 = 0x7f := by decide +kernel
    obtain ⟨line, printed, holds⟩ := ((numbers_as_written "0x7F").2.2.2.2.1 SimulatedModule).read ran
    exact ⟨said, line, printed, held ▸ holds⟩

-- A sign stands behind the mark, and a character that is no digit behind a number that is too large already.
example : readValue "0X_+F_f" = .ok 255 ∧ readValue "0x" = .error (.notNumber "0x" .empty) ∧
    readValue "340282366920938463463374607431768211456z" =
      .error (.notNumber "340282366920938463463374607431768211456z" .tooLarge) := by decide +kernel

end Number

end HartDebug
