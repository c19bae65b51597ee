import HartDebug.Proofs.Text.Octets
import HartDebug.Proofs.Wire.Sending

/-!
# Quoting

A command whose output is to be captured is sent as a quoted word, and the Tcl server reads it out of the
quotes again.  What stands for something else in there has a backslash before it, so that the server reads the
command and nothing is done on the way.

* `Tcl.readQuoted` — a quoted word as a Tcl server reads it, sign by sign;
* `Tcl.text_readQuoted` — **the signs are the text**, up to what ends the reading;
* `Tcl.readQuoted_quoteBody` — **a command is read as it was quoted**, up to the closing quote;
* `TclServer.SendsCaptured`, `TclServer.sendsCaptured` — **a captured command is sent as its text**, as far as
  the stream takes it;
* `TclServer.capture_quotes` — **what is sent for a captured command is read as this command**.
-/

namespace HartDebug

namespace Tcl

/-! ## Quoted words -/

/-- What stands at a place of a quoted word. -/
inductive Sign where
  /-- A character that stands for itself. -/
  | plain (c : Char)
  /-- A backslash, and the character behind it, which stands for itself whatever it is. -/
  | escaped (c : Char)
  deriving DecidableEq, Repr

namespace Sign

/-- What the sign stands for. -/
def char : Sign → Char
  | plain c => c
  | escaped c => c

/-- The sign as it is written. -/
def text : Sign → List Char
  | plain c => [c]
  | escaped c => ['\\', c]

end Sign

/-- How the reading of a quoted word ends. -/
inductive Ending where
  /-- The closing quote has come, and the rest stands behind it. -/
  | closed (rest : List Char)
  /-- A substitution begins. -/
  | substitution (rest : List Char)
  /-- The text has ended in the word. -/
  | unclosed (rest : List Char)
  deriving DecidableEq, Repr

/-- What is left when the reading ends, with what has ended it. -/
def Ending.text : Ending → List Char
  | closed rest => '"' :: rest
  | substitution rest => rest
  | unclosed rest => rest

/-- Read a quoted word behind its opening quote: its signs, and how the reading ends.  A backslash makes the
next character literal.  Behind none, a quote closes the word, and an opening bracket and a dollar sign begin a
substitution. -/
def readQuoted : List Char → List Sign × Ending
  | [] => ([], .unclosed [])
  | ['\\'] => ([], .unclosed ['\\'])
  | '\\' :: c :: rest => (.escaped c :: (readQuoted rest).1, (readQuoted rest).2)
  | '"' :: rest => ([], .closed rest)
  | '[' :: rest => ([], .substitution ('[' :: rest))
  | '$' :: rest => ([], .substitution ('$' :: rest))
  | c :: rest => (.plain c :: (readQuoted rest).1, (readQuoted rest).2)

/-- **The signs are the text**, up to what ends the reading: nothing of it is lost. -/
theorem text_readQuoted (text : List Char) :
    (readQuoted text).1.flatMap Sign.text ++ (readQuoted text).2.text = text := by
  fun_induction readQuoted text with
  | case3 c rest ih => exact congrArg ('\\' :: c :: ·) ih
  | case7 c rest _ _ _ _ _ ih => exact congrArg (c :: ·) ih
  | _ => rfl

/-- A character that means nothing is read as itself. -/
theorem readQuoted_cons_of_plain {c : Char} (plain : isSpecial c = false) (rest : List Char) :
    readQuoted (c :: rest) = (.plain c :: (readQuoted rest).1, (readQuoted rest).2) := by
  have other : ∀ d, isSpecial d = true → c ≠ d := fun d special same => by
    rw [same, special] at plain
    cases plain
  rw [readQuoted.eq_7]
  · exact fun same _ => other '\\' rfl same
  · exact fun d rest' same _ => other '\\' rfl same
  · exact other '"' rfl
  · exact other '[' rfl
  · exact other '$' rfl

/-! ## Commands in quotes -/

/-- The characters that mean something. -/
theorem isSpecial_iff {c : Char} : isSpecial c = true ↔ c ∈ ['"', '\\', '[', ']', '$'] := by
  simp only [isSpecial, Bool.or_eq_true, beq_iff_eq, List.mem_cons, List.not_mem_nil, or_false, or_assoc]

/-- The signs that a command is quoted in. -/
def quotedSigns (command : List Char) : List Sign :=
  command.map fun c => if isSpecial c then .escaped c else .plain c

theorem char_quotedSigns (command : List Char) : (quotedSigns command).map Sign.char = command := by
  have each : ∀ c ∈ command, (Sign.char ∘ fun c => if isSpecial c then .escaped c else .plain c) c = c := by
    intro c _
    rw [Function.comp_apply]
    split <;> rfl
  rw [quotedSigns, List.map_map, List.map_congr_left each, List.map_id']

/-- A backslash stands only before a character that means something. -/
theorem escaped_of_backslash {command : List Char} {s : Sign} (inside : s ∈ quotedSigns command)
    (backslash : '\\' ∈ s.text) : ∃ c, isSpecial c = true ∧ s = .escaped c := by
  obtain ⟨c, -, rfl⟩ := List.mem_map.1 inside
  cases special : isSpecial c with
  | true => exact ⟨c, special, rfl⟩
  | false =>
    obtain rfl : '\\' = c := by
      simpa [special, Sign.text] using backslash
    cases special

/-- **A command is read as it was quoted**, up to the closing quote and not beyond it. -/
theorem readQuoted_quoteBody (command rest : List Char) :
    readQuoted (quoteBody command ++ '"' :: rest) = (quotedSigns command, .closed rest) := by
  induction command with
  | nil => rfl
  | cons c command ih =>
    rw [quoteBody, List.flatMap_cons, List.append_assoc, ← quoteBody, quotedSigns, List.map_cons,
      ← quotedSigns]
    split
    · rw [List.cons_append, List.cons_append, List.nil_append, readQuoted, ih]
    · next plain =>
      rw [List.singleton_append, readQuoted_cons_of_plain (Bool.eq_false_iff.2 plain), ih]

end Tcl

namespace TclServer

/-- What is sent for a command whose output is wanted. -/
def captureText (command : String) : String :=
  "capture \"" ++ String.ofList (Tcl.quoteBody command.toList) ++ "\""

/-- Behind the opening quote stands the quoted command, with the closing quote behind it. -/
theorem toList_captureText (command : String) :
    (captureText command).toList =
      "capture \"".toList ++ (Tcl.quoteBody command.toList ++ '"' :: []) := by
  have body : (String.ofList (Tcl.quoteBody command.toList)).toList = Tcl.quoteBody command.toList :=
    String.toList_ofList
  rw [captureText, String.toList_append, String.toList_append, body, List.append_assoc]
  rfl

/-- Different commands are sent as different texts, because what is read out of a text is its command. -/
theorem captureText_injective {command other : String} (same : captureText command = captureText other) :
    command = other := by
  have written := congrArg String.toList same
  rw [toList_captureText, toList_captureText] at written
  have read := congrArg (fun text => ((Tcl.readQuoted text).1.map Tcl.Sign.char))
    (List.append_cancel_left written)
  simp only [Tcl.readQuoted_quoteBody, Tcl.char_quotedSigns] at read
  exact String.toList_inj.1 read

/-- What is sent for a captured command: its text with the end mark, as far as the stream takes it. -/
structure SendsCaptured {σ : Type} [ByteStream σ] (command : String) (t : TclServer σ) : Prop where
  /-- Without a connection nothing is done. -/
  unconnected : t.link.connection = none → (capture command).exec t = (.error .notConnected, t)
  /-- Over a connection the stream is offered the text with the end mark.  What it takes of them is sent, and if
  it fails the call fails with that. -/
  offered : ∀ connection, t.link.connection = some connection → ∃ taken outcome stream,
    ByteStream.Takes (Utf8.bytes (captureText command) ++ [endMark]) connection.stream taken outcome stream ∧
      ((capture command).exec t).2.link.sent = t.link.sent ++ taken ∧
      ∀ fault, outcome = .error fault → ((capture command).exec t).1 = .error (.transport .send fault)
  /-- Over a stream that takes everything the whole text is sent, with the end mark. -/
  whole : ∀ connection, t.link.connection = some connection → ByteStream.TakesAll connection.stream →
    ((capture command).exec t).2.link.sent = t.link.sent ++ (Utf8.bytes (captureText command) ++ [endMark])

section

variable {σ : Type} [ByteStream σ] (command : String) {t : TclServer σ} {connection : Connection σ}
  (opened : t.link.connection = some connection)

include opened

theorem exists_takes_capture :
    ∃ taken outcome stream,
      ByteStream.Takes (Utf8.bytes (captureText command) ++ [endMark]) connection.stream taken outcome stream ∧
        ((capture command).exec t).2.link.sent = t.link.sent ++ taken ∧
        ∀ fault, outcome = .error fault → ((capture command).exec t).1 = .error (.transport .send fault) := by
  obtain ⟨taken, outcome, stream, takes, sent, why⟩ :=
    Link.exists_takes (sends_exchange (captureText command)) opened
  have ran : (capture command).exec t = _ := Action.exec_map Tcl.unwrapBraces (send _) t
  have sending : (send (captureText command)).exec t = _ :=
    Action.exec_bind_ok (Action.exec_log _ _ _ t) _
  have text : "capture \"" ++ String.ofList (Tcl.quoteBody command.toList) ++ "\"" = captureText command := rfl
  rw [ran, text, sending, onLink, Action.exec_onPart]
  refine ⟨taken, outcome, stream, takes, sent, fun fault failed => ?_⟩
  rw [why fault failed]
  rfl

/-- A stream that takes everything has one course: it takes the text and the end mark. -/
theorem sent_capture (takes_all : ByteStream.TakesAll connection.stream) :
    ((capture command).exec t).2.link.sent = t.link.sent ++ (Utf8.bytes (captureText command) ++ [endMark]) := by
  obtain ⟨taken, _, _, takes, sent, -⟩ := exists_takes_capture command opened
  obtain ⟨_, all⟩ := takes_all (Utf8.bytes (captureText command) ++ [endMark])
  rw [sent, (takes.unique all).1]

end

/-- **A captured command is sent as its text.** -/
theorem sendsCaptured {σ : Type} [ByteStream σ] (command : String) (t : TclServer σ) :
    SendsCaptured command t where
  unconnected closed := exec_capture_of_none closed command
  offered _ opened := exists_takes_capture command opened
  whole _ opened takes_all := sent_capture command opened takes_all

/-- **What is sent for a captured command is read as this command.**  The text that goes out is the same over
every stream: all of it where the stream takes everything, and otherwise as much as the stream takes.  A Tcl
server that reads it behind the opening quote comes to the closing quote at the very end, with no substitution
begun before it; what the signs stand for is the command; and wherever there is a backslash it stands before one
of the five characters that mean something, or is itself the one behind such a backslash. -/
theorem capture_quotes (command : String) :
    (∀ (σ : Type) [ByteStream σ] (t : TclServer σ), SendsCaptured command t) ∧
    (∃ written signs,
      (captureText command).toList = "capture \"".toList ++ written ∧
      Tcl.readQuoted written = (signs, .closed []) ∧
      signs.flatMap Tcl.Sign.text ++ ['"'] = written ∧
      signs.map Tcl.Sign.char = command.toList ∧
      ∀ s ∈ signs, '\\' ∈ s.text → ∃ c ∈ ['"', '\\', '[', ']', '$'], s = .escaped c) ∧
    ∀ other, captureText other = captureText command → other = command := by
  refine ⟨fun σ _ t => sendsCaptured command t, ?_, fun other same => captureText_injective same⟩
  have read := Tcl.readQuoted_quoteBody command.toList []
  have whole := Tcl.text_readQuoted (Tcl.quoteBody command.toList ++ ['"'])
  rw [read] at whole
  refine ⟨_, _, toList_captureText command, read, whole, Tcl.char_quotedSigns _, fun s inside backslash => ?_⟩
  obtain ⟨c, special, escaped⟩ := Tcl.escaped_of_backslash inside backslash
  exact ⟨c, Tcl.isSpecial_iff.1 special, escaped⟩

/-- A command with each of the five characters, over a stream that takes three octets at a time, over one that
takes nine in all, and without a connection. -/
theorem capture_quotes_in_pieces :
    let command := "puts \"$a[b]\\"
    let session (stream : ScriptedStream) := TclServer.ofStream stream {} fun _ => .error .ended
    let apart := TclServer.forConfig (σ := ScriptedStream) {} fun _ => .error .ended
    ByteStream.TakesAll ({ most := some 3 } : ScriptedStream) ∧
      ((capture command).exec (session { most := some 3 })).2.link.sent =
        Utf8.bytes "capture \"puts \\\"\\$a\\[b\\]\\\\\"\x1a" ∧
      ((capture command).exec (session { room := some 9 })).1 = .error (.transport .send .nothingTaken) ∧
      ((capture command).exec (session { room := some 9 })).2.link.sent = Utf8.bytes "capture \"" ∧
      (capture command).exec apart = (.error .notConnected, apart) := by
  intro command session apart
  have sends := (capture_quotes command).1 ScriptedStream
  have takes_all : ByteStream.TakesAll ({ most := some 3 } : ScriptedStream) :=
    ScriptedStream.takesAll rfl (by decide)
  have whole := (sends (session { most := some 3 })).whole { stream := { most := some 3 } } rfl takes_all
  obtain ⟨taken, outcome, stream, takes, sent, why⟩ :=
    (sends (session { room := some 9 })).offered { stream := { room := some 9 } } rfl
  obtain ⟨rfl, rfl, -⟩ := takes.unique (ScriptedStream.takes_of_room rfl rfl (by decide +kernel))
  refine ⟨takes_all, ?_, why _ rfl, ?_, (sends apart).unconnected rfl⟩
  · rw [whole]
    decide +kernel
  · rw [sent]
    decide +kernel

end TclServer

end HartDebug
