/-!
# Lines of a text

A text cut at its line feeds.  A carriage return directly before a line feed belongs to the cut; one
anywhere else stays, also at the very end.  Nothing after the last line feed makes no further line.
-/

namespace HartDebug.Text

/-- A line read backwards, without the carriage return that ended it. -/
def dropReturn : List Char → List Char
  | '\r' :: rest => rest
  | line => line

/-- The lines of a text that continues a line of which `begun` has been read, last character first. -/
def linesAfter : List Char → List Char → List (List Char)
  | [], [] => []
  | begun, [] => [begun.reverse]
  | begun, '\n' :: rest => (dropReturn begun).reverse :: linesAfter [] rest
  | begun, c :: rest => linesAfter (c :: begun) rest

/-- The lines of a text. -/
def lines (text : List Char) : List (List Char) :=
  linesAfter [] text

end HartDebug.Text
