/-!
# Lines of a text

A line ends at a line feed, and a carriage return right before that line feed is part of the
ending. Text after the last line feed is a line of its own; a final line feed starts no new line.
-/

namespace ColumnSearch.Text

/-- Splits characters into the lines they spell. -/
def lineChars : List Char → List (List Char)
  | [] => []
  | '\r' :: '\n' :: cs => [] :: lineChars cs
  | '\n' :: cs => [] :: lineChars cs
  | c :: cs =>
    match lineChars cs with
    | [] => [[c]]
    | line :: more => (c :: line) :: more

/-- Splits a text into its lines, endings removed. -/
def lines (s : String) : List String :=
  (lineChars s.toList).map String.ofList

end ColumnSearch.Text
