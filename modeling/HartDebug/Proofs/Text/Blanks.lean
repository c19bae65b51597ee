import HartDebug.Text.Blank

/-!
# Blanks around a text

What is left of a text without the blanks at its ends does not depend on how many of them there are.

* `Blank`, `Solid` — texts of nothing but blanks, and texts without one;
* `exists_blanks` — a text by its blanks;
* `trim_of_blanks` — **blanks around a text make no difference**;
* `trim_of_solid`, `trim_append` — a text without blanks is left.
-/

namespace HartDebug.Text

/-- A text of nothing but blanks. -/
def Blank (text : List Char) : Prop :=
  ∀ c ∈ text, isBlank c = true

instance (text : List Char) : Decidable (Blank text) :=
  List.decidableBAll _ text

/-- A text without a blank. -/
def Solid (text : List Char) : Prop :=
  ∀ c ∈ text, isBlank c = false

instance (text : List Char) : Decidable (Solid text) :=
  List.decidableBAll _ text

/-- Among the digits and the letters there are no blanks. -/
theorem isBlank_eq_false {c : Char} (bounds : 0x30 ≤ c.toNat ∧ c.toNat < 0x7b) : isBlank c = false := by
  simp only [isBlank, Bool.or_eq_false_iff, Bool.and_eq_false_iff, decide_eq_false_iff_not,
    beq_eq_false_iff_ne]
  omega

theorem blank_nil : Blank [] :=
  nofun

theorem Blank.filter {text : List Char} (h : Blank text) (p : Char → Bool) : Blank (text.filter p) :=
  fun c mem => h c (List.mem_filter.1 mem).1

/-! ### Blanks at the end -/

theorem dropBlanksEnd_append {tail : List Char} (h : Blank tail) (text : List Char) :
    dropBlanksEnd (text ++ tail) = dropBlanksEnd text := by
  rw [dropBlanksEnd, dropBlanksEnd, List.reverse_append,
    List.dropWhile_append_of_pos fun c mem => h c (List.mem_reverse.1 mem)]

theorem dropBlanksEnd_concat {c : Char} (h : isBlank c = false) (text : List Char) :
    dropBlanksEnd (text ++ [c]) = text ++ [c] := by
  rw [dropBlanksEnd, List.reverse_append, List.reverse_singleton, List.singleton_append,
    List.dropWhile_cons_of_neg (by simp [h]), List.reverse_cons, List.reverse_reverse]

theorem dropBlanksEnd_of_solid {text : List Char} (h : Solid text) : dropBlanksEnd text = text := by
  rcases List.eq_nil_or_concat text with rfl | ⟨front, c, rfl⟩
  · rfl
  · rw [List.concat_eq_append] at h ⊢
    exact dropBlanksEnd_concat (h c (by simp)) front

/-- A text is what is left without the blanks at its end, and those. -/
theorem exists_blanks_end (text : List Char) : ∃ tail, text = dropBlanksEnd text ++ tail ∧ Blank tail := by
  refine ⟨(text.reverse.takeWhile isBlank).reverse, ?_, fun c mem => ?_⟩
  · rw [dropBlanksEnd, ← List.reverse_append, List.takeWhile_append_dropWhile, List.reverse_reverse]
  · exact List.all_eq_true.1 List.all_takeWhile c (List.mem_reverse.1 mem)

/-! ### Blanks at either end -/

/-- A text is what is left without the blanks at its ends, and those. -/
theorem exists_blanks (text : String) :
    ∃ front tail, text.toList = front ++ (trim text).toList ++ tail ∧ Blank front ∧ Blank tail := by
  obtain ⟨tail, split, blanks⟩ := exists_blanks_end (text.toList.dropWhile isBlank)
  refine ⟨text.toList.takeWhile isBlank, tail, ?_, List.all_eq_true.1 List.all_takeWhile, blanks⟩
  rw [trim, String.toList_ofList, List.append_assoc, ← split, List.takeWhile_append_dropWhile]

/-- **Blanks around a text make no difference** to what is left without them. -/
theorem trim_of_blanks {front tail : List Char} (before : Blank front) (after : Blank tail)
    (text : List Char) : trim (String.ofList (front ++ text ++ tail)) = trim (String.ofList text) := by
  have all_blank : tail.dropWhile isBlank = [] := by
    rw [← List.append_nil tail, List.dropWhile_append_of_pos after, List.dropWhile_nil]
  rw [trim, trim, String.toList_ofList, String.toList_ofList, List.append_assoc,
    List.dropWhile_append_of_pos before, List.dropWhile_append]
  split
  · next empty => rw [List.isEmpty_iff.1 empty, all_blank]
  · rw [dropBlanksEnd_append after]

theorem trim_trimEnd (text : String) : trim (trimEnd text) = trim text := by
  obtain ⟨tail, split, blanks⟩ := exists_blanks_end text.toList
  have same : trim (String.ofList ([] ++ dropBlanksEnd text.toList ++ tail)) = _ :=
    trim_of_blanks blank_nil blanks _
  rw [List.nil_append, ← split, String.ofList_toList] at same
  exact same.symm

theorem trim_of_solid {text : List Char} (h : Solid text) :
    trim (String.ofList text) = String.ofList text := by
  rw [trim, String.toList_ofList]
  cases text with
  | nil => rfl
  | cons c text =>
    rw [List.dropWhile_cons_of_neg (by simp [h c List.mem_cons_self]), dropBlanksEnd_of_solid h]

/-- **Blanks after a text without blanks are dropped.** -/
theorem trim_append {text tail : List Char} (h : Solid text) (blanks : Blank tail) :
    trim (String.ofList (text ++ tail)) = String.ofList text := by
  have same := trim_of_blanks blank_nil blanks text
  rw [List.nil_append] at same
  rw [same, trim_of_solid h]

end HartDebug.Text
