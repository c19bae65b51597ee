import HartDebug.Text.Lines

/-!
# Where lines end

A text is cut at its line feeds and nowhere else.

* `chomp` — a line without the carriage return at its end;
* `lines_append`, `lines_of_one_line` — **the first line of a text**, and one that is the last;
* `lines_append_feed` — a text may be cut into lines in two parts, at any line feed;
* `chomp_append`, `isPrefix_chomp` — only the end of a line is looked at, and nothing is added to it.
-/

namespace HartDebug.Text

/-- A line without the carriage return at its end. -/
def chomp (line : List Char) : List Char :=
  (dropReturn line.reverse).reverse

theorem linesAfter_cons {c : Char} (no_feed : c ≠ '\n') (begun rest : List Char) :
    linesAfter begun (c :: rest) = linesAfter (c :: begun) rest := by
  rw [linesAfter]
  exact no_feed

theorem linesAfter_append {line : List Char} (whole : '\n' ∉ line) (begun rest : List Char) :
    linesAfter begun (line ++ '\n' :: rest) = chomp (begun.reverse ++ line) :: lines rest := by
  induction line generalizing begun with
  | nil =>
    rw [List.nil_append, linesAfter, chomp, List.append_nil, List.reverse_reverse]
    rfl
  | cons c line ih =>
    rw [List.mem_cons, not_or] at whole
    rw [List.cons_append, linesAfter_cons (Ne.symm whole.1), ih whole.2, List.reverse_cons, List.append_assoc]
    rfl

/-- **The first line of a text** ends at its first line feed. -/
theorem lines_append {line : List Char} (whole : '\n' ∉ line) (rest : List Char) :
    lines (line ++ '\n' :: rest) = chomp line :: lines rest :=
  linesAfter_append whole [] rest

theorem linesAfter_append_feed (begun text rest : List Char) :
    linesAfter begun (text ++ '\n' :: rest) = linesAfter begun (text ++ ['\n']) ++ lines rest := by
  induction text generalizing begun with
  | nil => simp [linesAfter, lines]
  | cons c text ih =>
    rw [List.cons_append, List.cons_append]
    by_cases feed : c = '\n'
    · rw [feed, linesAfter, linesAfter, ih, List.cons_append]
    · rw [linesAfter_cons feed, linesAfter_cons feed, ih]

/-- What follows a line feed has its own lines, whatever stands before. -/
theorem lines_append_feed (text rest : List Char) :
    lines (text ++ '\n' :: rest) = lines (text ++ ['\n']) ++ lines rest :=
  linesAfter_append_feed [] text rest

/-- **The last line of a text** ends with the text. -/
theorem lines_of_one_line {line : List Char} (some_line : line ≠ []) (whole : '\n' ∉ line) :
    lines line = [line] := by
  suffices from_here : ∀ begun, begun.reverse ++ line ≠ [] → linesAfter begun line = [begun.reverse ++ line] from
    from_here [] some_line
  clear some_line
  induction line with
  | nil =>
    intro begun some_text
    rw [List.append_nil] at some_text ⊢
    cases begun with
    | nil => exact absurd rfl some_text
    | cons c begun => rfl
  | cons c line ih =>
    intro begun _
    rw [List.mem_cons, not_or] at whole
    rw [linesAfter_cons (Ne.symm whole.1), ih whole.2 (c :: begun) (by simp), List.reverse_cons,
      List.append_assoc]
    rfl

/-! ### Ends of lines -/

theorem dropReturn_cons (c : Char) (rest : List Char) :
    dropReturn (c :: rest) = if c = '\r' then rest else c :: rest := by
  split
  · next ended =>
    rw [ended]
    rfl
  · next other =>
    rw [dropReturn]
    intro rest' same
    exact other (List.cons.inj same).1

theorem chomp_concat (front : List Char) (c : Char) :
    chomp (front ++ [c]) = if c = '\r' then front else front ++ [c] := by
  rw [chomp, List.reverse_append, List.reverse_singleton, List.singleton_append, dropReturn_cons]
  split <;> simp

/-- Only the end of a line is looked at. -/
theorem chomp_append (front : List Char) {tail : List Char} (some_tail : tail ≠ []) :
    chomp (front ++ tail) = front ++ chomp tail := by
  rcases List.eq_nil_or_concat tail with rfl | ⟨before, c, rfl⟩
  · exact absurd rfl some_tail
  · rw [List.concat_eq_append, ← List.append_assoc, chomp_concat, chomp_concat]
    split <;> simp

theorem isPrefix_chomp (line : List Char) : chomp line <+: line := by
  rcases List.eq_nil_or_concat line with rfl | ⟨front, c, rfl⟩
  · exact List.prefix_rfl
  · rw [List.concat_eq_append, chomp_concat]
    split
    · exact List.prefix_append _ _
    · exact List.prefix_rfl

end HartDebug.Text
