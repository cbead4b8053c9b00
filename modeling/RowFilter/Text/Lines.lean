/-!
# Lines of a text

A line ends at a line feed, and a carriage return just before that line feed
belongs to the end of the line. A text that does not end in a line feed has its
last line without one; a carriage return at the very end of the text is then an
ordinary character.

> `lines`: the lines in order, without their ends. The empty text has none.
-/

namespace RowFilter.Text

/-- The lines of a text without their ends. -/
def lines : List Char → List (List Char)
  | [] => []
  | '\n' :: rest => [] :: lines rest
  | '\r' :: '\n' :: rest => [] :: lines rest
  | c :: rest =>
    match lines rest with
    | [] => [[c]]
    | line :: more => (c :: line) :: more

end RowFilter.Text
