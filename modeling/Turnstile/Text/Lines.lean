import Turnstile.Text.Blank
/-!
# Lines of a text

A line ends at a line feed, and one carriage return before it belongs to
the line end. After the last line end there is no further line.
-/

namespace Turnstile

namespace Text

/-- A line without the carriage return at its end. -/
def withoutReturn (line : List Char) : List Char :=
  if line.getLast? = some '\r' then line.dropLast else line

/-- Pieces between line feeds as lines: the last one has no line end. -/
def linesOf : List (List Char) → List (List Char)
  | [] => []
  | [last] => if last.isEmpty then [] else [last]
  | line :: rest => withoutReturn line :: linesOf rest

/-- The lines of a text. -/
def lines (s : String) : List String :=
  (linesOf (splitListAt (· == '\n') s.toList)).map String.ofList

end Text

end Turnstile
