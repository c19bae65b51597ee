import HartDebug.Proofs.Text.Lines
import HartDebug.Proofs.Vector.PatternLength

/-!
# Notes in a script

A note is written behind two slashes, and a script is read line by line.  A note that breaks its line
therefore keeps only its first line to itself: each later line stands in the script as it is, and one that
does not itself begin with two slashes is a line for the tester.

* `Script.vectorLines` — the lines of a script that are no notes;
* `Note.spilled` — the lines of a note that are read as lines of the script;
* `Directive.vectorLines` — the same of a single directive;
* `TransportCall.exists_added` — what calls add depends on the instruction that was selected before them,
  and on nothing else;
* `vectors_beside_note` — **what a note changes**: its spilled lines are added, and nothing else;
* `vectors_beside_note_of_two_lines` — a note whose second line resets the port.
-/

namespace HartDebug

/-! ## Lines that are no notes -/

/-- The lines of a script that are no notes. -/
def Script.vectorLines (script : String) : List (List Char) :=
  (Text.lines script.toList).filter (!isNote ·)

/-- The line says one thing that a port does. -/
def Script.Complete (line : List Char) : Prop :=
  (line? line).isSome

namespace Note

/-- The lines of a note behind its first one. -/
def laterLines (note : String) : List (List Char) :=
  (Text.lines (note.toList ++ ['\n'])).tail

/-- The lines of a note that are read as lines of the script. -/
def spilled (note : String) : List (List Char) :=
  (laterLines note).filter (!Script.isNote ·)

theorem spilled_eq_nil_iff {note : String} :
    spilled note = [] ↔ ∀ line ∈ laterLines note, Script.isNote line := by
  simp [spilled, List.filter_eq_nil_iff]

theorem laterLines_of_one_line {note : String} (one_line : '\n' ∉ note.toList) : laterLines note = [] := by
  rw [laterLines, Text.lines_append one_line]
  rfl

theorem spilled_of_one_line {note : String} (one_line : '\n' ∉ note.toList) : spilled note = [] := by
  rw [spilled, laterLines_of_one_line one_line]
  rfl

/-- What stands before a note is in its first line. -/
theorem exists_first_line {front : List Char} (whole : '\n' ∉ front) (note : String) :
    ∃ first, Text.lines (front ++ note.toList ++ ['\n']) = Text.chomp (front ++ first) :: laterLines note := by
  by_cases feed : '\n' ∈ note.toList
  · obtain ⟨first, rest, cut, one_line⟩ := List.eq_append_cons_of_mem feed
    have begun : '\n' ∉ front ++ first := fun mem => (List.mem_append.1 mem).elim whole one_line
    refine ⟨first, ?_⟩
    rw [laterLines, cut, List.append_assoc first, List.cons_append, Text.lines_append one_line, List.tail_cons,
      ← List.append_assoc front, List.append_assoc, List.cons_append, Text.lines_append begun]
  · have one_line : '\n' ∉ front ++ note.toList := fun mem => (List.mem_append.1 mem).elim whole feed
    refine ⟨note.toList, ?_⟩
    rw [laterLines_of_one_line feed, Text.lines_append one_line]
    rfl

end Note

namespace Directive

/-- The lines of a directive. -/
def lines (d : Directive) : List (List Char) :=
  Text.lines (d.text.toList ++ ['\n'])

/-- The lines of a directive that are no notes. -/
def vectorLines (d : Directive) : List (List Char) :=
  d.lines.filter (!Script.isNote ·)

/-- A directive for the port is one line. -/
theorem vectorLines_of_step {d : Directive} {step : PortStep} (h : d.portStep? = some step) :
    d.vectorLines = [d.text.toList] := by
  have kept : Text.chomp d.text.toList = d.text.toList := by
    rw [Script.toList_text h, Text.chomp_concat]
    rfl
  have line : d.lines = [d.text.toList] := by
    rw [lines, Text.lines_append (Script.feed_notMem_text h), kept]
    rfl
  rw [vectorLines, line, List.filter_cons_of_pos (by rw [Script.isNote_text h]; rfl), List.filter_nil]

/-- Of a note, the lines that it spills. -/
theorem vectorLines_note (note : String) : (Directive.note note).vectorLines = Note.spilled note := by
  have whole : '\n' ∉ ['/', '/', ' '] := by decide
  obtain ⟨first, cut⟩ := Note.exists_first_line whole note
  have text : (Directive.note note).text.toList = ['/', '/', ' '] ++ note.toList := by
    rw [Directive.text, String.toList_append]
    rfl
  have slashes : Script.isNote (Text.chomp (['/', '/', ' '] ++ first)) = true :=
    Script.isNote_dropReturn first
  rw [vectorLines, lines, text, cut, List.filter_cons_of_neg (by rw [slashes]; decide), Note.spilled]

/-- Every line of a directive is complete if it is for the port, or a note that spills nothing else. -/
theorem complete_iff (d : Directive) :
    (∀ line ∈ d.vectorLines, Script.Complete line) ↔
      ∀ note, d = .note note → ∀ line ∈ Note.spilled note, Script.Complete line := by
  cases step : d.portStep? with
  | some step' =>
    have complete : Script.Complete d.text.toList := by
      rw [Script.Complete, Script.line?_text step]
      rfl
    have no_note : ∀ note, d ≠ .note note := by
      rintro note rfl
      cases step
    rw [vectorLines_of_step step]
    exact iff_of_true (List.forall_mem_singleton.2 complete) fun note same => absurd same (no_note note)
  | none =>
    obtain ⟨note, rfl⟩ : ∃ note, d = .note note := by
      cases d <;> first | exact ⟨_, rfl⟩ | cases step
    rw [vectorLines_note]
    exact ⟨fun h note' same => by cases same; exact h, fun h => h note rfl⟩

end Directive

namespace Script

/-- The lines of a script are those of its directives, one after another. -/
theorem lines_script (directives : List Directive) :
    Text.lines (Directive.script directives).toList = directives.flatMap Directive.lines := by
  induction directives with
  | nil => rfl
  | cons d rest ih =>
    rw [toList_script_cons, Text.lines_append_feed, ih, List.flatMap_cons]
    rfl

theorem vectorLines_script (directives : List Directive) :
    vectorLines (Directive.script directives) = directives.flatMap Directive.vectorLines := by
  rw [vectorLines, lines_script, List.filter_flatMap]
  rfl

end Script

/-! ## What calls add -/

/-- The lines of a recording that are no notes. -/
def VectorEmitter.vectorLines (e : VectorEmitter) : List (List Char) :=
  Script.vectorLines e.artifact

namespace TransportCall

open VectorEmitter

/-- The instruction that a call leaves selected. -/
def selects (i : Instruction) : TransportCall → Instruction
  | .write _ _ | .expect _ _ _ => .dmi
  | .writeDtmcs _ => .dtmcs
  | .expectIdcode _ | .resetTap => .idcode
  | .connect | .disconnect | .read _ | .readDtmcs | .readIdcode | .idle _ | .annotate _ => i

theorem selected_perform (call : TransportCall) (e : VectorEmitter) :
    (call.perform.exec e).2.selected = call.selects e.selected := by
  cases call with
  | write address data => rw [perform, Action.exec_bind_ok (exec_write address data e)]; rfl
  | expect address expected mask =>
    rw [perform, Action.exec_map_ok (exec_expect address expected mask e)]
    rfl
  | writeDtmcs value => rw [perform, Action.exec_bind_ok (exec_writeDtmcs value e)]; rfl
  | expectIdcode expected => rw [perform, Action.exec_map_ok (exec_expectIdcode expected e)]; rfl
  | resetTap => rw [perform, Action.exec_bind_ok (exec_resetTap e)]; rfl
  | disconnect =>
    rw [selects, ← selected_finish e]
    show ((finish >>= fun _ => pure Answer.done).exec e).2.selected = _
    rw [Action.exec_bind]
    rcases finish.exec e with ⟨_ | _, _⟩ <;> rfl
  | idle _ | annotate _ | connect | read _ | readDtmcs | readIdcode => rfl

theorem adds_congr {e e' : VectorEmitter} (same : e.selected = e'.selected) (call : TransportCall) :
    call.adds e = call.adds e' := by
  have selecting (i : Instruction) : e.selecting i = e'.selecting i := by
    rw [VectorEmitter.selecting, VectorEmitter.selecting, same]
  cases call with
  | write _ _ | expect _ _ _ | writeDtmcs _ | expectIdcode _ => rw [adds, adds, selecting]
  | connect | disconnect | read _ | readDtmcs | readIdcode | resetTap | idle _ | annotate _ => rfl

/-- **Calls from the same instruction add the same**, whatever was recorded before them.  By induction on the
calls; the instruction that is selected is all that one call leaves to the next. -/
theorem exists_added (calls : List TransportCall) {e e' : VectorEmitter} (same : e.selected = e'.selected) :
    ∃ added, ((attemptAll calls).exec e).2.directives = e.directives ++ added ∧
      ((attemptAll calls).exec e').2.directives = e'.directives ++ added := by
  induction calls generalizing e e' with
  | nil => exact ⟨[], (List.append_nil _).symm, (List.append_nil _).symm⟩
  | cons call rest ih =>
    have next : (call.perform.exec e).2.selected = (call.perform.exec e').2.selected := by
      rw [selected_perform, selected_perform, same]
    obtain ⟨added, here, there⟩ := ih next
    refine ⟨call.adds e ++ added, ?_, ?_⟩
    · rw [exec_attemptAll_cons, here, directives_perform, List.append_assoc]
    · rw [exec_attemptAll_cons, there, directives_perform, ← adds_congr same, List.append_assoc]

theorem exec_attemptAll_append (before after : List TransportCall) (e : VectorEmitter) :
    (attemptAll (before ++ after)).exec e = (attemptAll after).exec ((attemptAll before).exec e).2 := by
  induction before generalizing e with
  | nil => rfl
  | cons call rest ih => rw [List.cons_append, exec_attemptAll_cons, ih, exec_attemptAll_cons]

/-- Of all calls only the one that leaves a note adds one. -/
theorem note_mem_adds_iff {note : String} {call : TransportCall} (e : VectorEmitter) :
    .note note ∈ call.adds e ↔ call = .annotate note := by
  have selecting (i : Instruction) : .note note ∉ e.selecting i := by
    rw [VectorEmitter.selecting]
    split <;> simp [Directive.select]
  cases call with
  | annotate other => simp [adds, eq_comm]
  | _ => simp [adds, selecting, expectation, Directive.shift, Directive.compare]

/-- The lines that a call adds are complete unless it leaves a note that spills another one. -/
theorem complete_adds_iff (e : VectorEmitter) (call : TransportCall) :
    (∀ d ∈ call.adds e, ∀ line ∈ d.vectorLines, Script.Complete line) ↔
      ∀ note, call = .annotate note → ∀ line ∈ Note.spilled note, Script.Complete line := by
  simp only [Directive.complete_iff]
  constructor
  · intro complete note left
    exact complete _ ((note_mem_adds_iff e).2 left) note rfl
  · rintro complete d added note rfl
    exact complete note ((note_mem_adds_iff e).1 added)

theorem exec_attemptAll_ok (calls : List TransportCall) (e : VectorEmitter) :
    (attemptAll calls).exec e = (.ok (), ((attemptAll calls).exec e).2) := by
  induction calls generalizing e with
  | nil => rfl
  | cons call rest ih => rw [exec_attemptAll_cons, ← ih]

end TransportCall

namespace VectorEmitter

theorem vectorLines_eq (e : VectorEmitter) : e.vectorLines = e.directives.flatMap Directive.vectorLines :=
  Script.vectorLines_script e.directives

open TransportCall

/-- A note between calls is one more call. -/
theorem exec_noted {note : String} {record : Action DebugError VectorEmitter Unit}
    (records : record ∈ [comment note, Transport.annotate note]) (before after : List TransportCall)
    (e : VectorEmitter) :
    (attemptAll before >>= fun _ => record >>= fun _ => attemptAll after).exec e =
      (attemptAll (before ++ .annotate note :: after)).exec e := by
  have same : record = comment note := by
    rcases List.mem_cons.1 records with commented | annotated
    · exact commented
    · exact List.mem_singleton.1 annotated
  rw [exec_attemptAll_append, exec_attemptAll_cons, Action.exec_bind_ok (exec_attemptAll_ok before e), same]
  rfl

end VectorEmitter

/-- **What a note changes.**  Whatever calls a new recording is made by, whether or not they fail, and
wherever among them a note is left, by a comment or as an annotation: the lines that are no notes are those of
the recording without it, and at its place those that the note spills, which are its lines behind the first
that are no notes themselves.  They are the same exactly if it spills none; a note of one line spills none.
Every one of these lines is complete exactly if every one is that some note of the recording spills. -/
theorem vectors_beside_note (before after : List TransportCall) (note : String) (config : SessionConfig)
    (disk : Disk) {record : Action DebugError VectorEmitter Unit}
    (records : record ∈ [VectorEmitter.comment note, Transport.annotate note]) :
    let e := VectorEmitter.forConfig config disk
    let begun := ((TransportCall.attemptAll before).exec e).2
    let plain := ((TransportCall.attemptAll (before ++ after)).exec e).2
    let noted := ((TransportCall.attemptAll before >>= fun _ => record >>= fun _ =>
      TransportCall.attemptAll after).exec e).2
    (∃ rest, plain.vectorLines = begun.vectorLines ++ rest ∧
        noted.vectorLines = begun.vectorLines ++ (Note.spilled note ++ rest)) ∧
      (noted.vectorLines = plain.vectorLines ↔ ∀ line ∈ Note.laterLines note, Script.isNote line) ∧
      ('\n' ∉ note.toList → noted.vectorLines = plain.vectorLines) ∧
      ((∀ line ∈ noted.vectorLines, Script.Complete line) ↔
        ∀ left, .annotate left ∈ before ++ .annotate note :: after →
          ∀ line ∈ Note.spilled left, Script.Complete line) := by
  intro e begun plain noted
  have as_call : noted = ((TransportCall.attemptAll (before ++ .annotate note :: after)).exec e).2 := by
    rw [← VectorEmitter.exec_noted records]
  -- The note leaves the instruction selected, so what follows adds the same with it and without it.
  have same : begun.selected = ((TransportCall.annotate note).perform.exec begun).2.selected := rfl
  obtain ⟨added, without, beside⟩ := TransportCall.exists_added after same
  have plain_lines : plain.vectorLines = begun.vectorLines ++ added.flatMap Directive.vectorLines := by
    rw [VectorEmitter.vectorLines_eq, VectorEmitter.vectorLines_eq, ← List.flatMap_append, ← without,
      ← TransportCall.exec_attemptAll_append]
  have noted_lines : noted.vectorLines =
      begun.vectorLines ++ (Note.spilled note ++ added.flatMap Directive.vectorLines) := by
    have directives : noted.directives = begun.directives ++ (.note note :: added) := by
      rw [as_call, TransportCall.exec_attemptAll_append, TransportCall.exec_attemptAll_cons, beside,
        TransportCall.directives_perform, List.append_assoc]
      rfl
    rw [VectorEmitter.vectorLines_eq, VectorEmitter.vectorLines_eq, directives, List.flatMap_append,
      List.flatMap_cons, Directive.vectorLines_note]
  have same_iff : noted.vectorLines = plain.vectorLines ↔ Note.spilled note = [] := by
    rw [noted_lines, plain_lines, List.append_cancel_left_eq, List.append_left_eq_self]
  refine ⟨⟨_, plain_lines, noted_lines⟩, same_iff.trans Note.spilled_eq_nil_iff,
    fun one_line => same_iff.2 (Note.spilled_of_one_line one_line), ?_⟩
  have complete := TransportCall.forall_directives_iff TransportCall.complete_adds_iff
    (before ++ .annotate note :: after) e
  rw [← as_call] at complete
  rw [VectorEmitter.vectorLines_eq, List.forall_mem_flatMap, complete]
  constructor
  · intro h left mem
    exact h.2 _ mem left rfl
  · intro h
    refine ⟨fun d mem => absurd mem List.not_mem_nil, ?_⟩
    rintro call mem left rfl
    exact h left mem

/-- A note whose second line takes the port through its reset, between two writes. -/
theorem vectors_beside_note_of_two_lines :
    let note := "halt the hart\nSTATE RESET;"
    let calls : List TransportCall := [.write 0x10 1]
    let e := VectorEmitter.forConfig {} {}
    let plain := ((TransportCall.attemptAll (calls ++ calls)).exec e).2
    let noted := ((TransportCall.attemptAll calls >>= fun _ => VectorEmitter.comment note >>= fun _ =>
      TransportCall.attemptAll calls).exec e).2
    noted.vectorLines ≠ plain.vectorLines ∧
      (∀ line ∈ noted.vectorLines, Script.Complete line) ∧
      noted.artifact = "SIR 5 TDI (11);\nSDR 41 TDI (4000000006);\n// halt the hart\nSTATE RESET;\n" ++
        "SDR 41 TDI (4000000006);\n" := by
  intro note calls e plain noted
  obtain ⟨-, same_iff, -, complete_iff⟩ := vectors_beside_note calls calls note {} {} List.mem_cons_self
  have spilled : Note.spilled note = ["STATE RESET;".toList] := by decide +kernel
  have reset : Script.Complete "STATE RESET;".toList := by
    show (Script.line? "STATE RESET;".toList).isSome
    decide +kernel
  refine ⟨fun same => ?_, complete_iff.2 fun left mem => ?_, by decide +kernel⟩
  · exact absurd (same_iff.1 same) (by decide +kernel)
  · have only : left = note := by simpa [calls] using mem
    rw [only, spilled]
    exact List.forall_mem_singleton.2 reset

end HartDebug
