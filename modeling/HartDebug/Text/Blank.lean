/-!
# Blank characters

The characters with the Unicode property `White_Space`, and the ways of removing them from the ends of
a text.

* `isBlank` — the property;
* `trim`, `trimEnd` — a text without the blanks at its ends;
* `isBlank_of_isWhitespace` — the ASCII blanks are among them.
-/

namespace HartDebug.Text

/-- The characters of the Unicode property `White_Space`. -/
def isBlank (c : Char) : Bool :=
  let n := c.toNat
  (0x09 ≤ n && n ≤ 0x0d) || n == 0x20 || n == 0x85 || n == 0xa0 || n == 0x1680
    || (0x2000 ≤ n && n ≤ 0x200a) || n == 0x2028 || n == 0x2029 || n == 0x202f || n == 0x205f
    || n == 0x3000

theorem isBlank_of_isWhitespace (c : Char) (h : c.isWhitespace = true) : isBlank c = true := by
  simp only [Char.isWhitespace, Bool.or_eq_true, decide_eq_true_eq] at h
  rcases h with ((h | h) | h) | h <;> subst h <;> rfl

/-- The text without the blanks at its end. -/
def dropBlanksEnd (text : List Char) : List Char :=
  (text.reverse.dropWhile isBlank).reverse

/-- The text without the blanks at its end. -/
def trimEnd (text : String) : String :=
  String.ofList (dropBlanksEnd text.toList)

/-- The text without the blanks at either end. -/
def trim (text : String) : String :=
  String.ofList (dropBlanksEnd (text.toList.dropWhile isBlank))

end HartDebug.Text
