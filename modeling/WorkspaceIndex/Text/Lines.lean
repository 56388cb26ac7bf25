/-!
# Lines of a text

A line ends at a line feed, and one carriage return right before that line feed belongs to the
ending. A carriage return anywhere else is a character of its line. A text that ends with a line
feed has no further line after it, so the empty text has none.
-/

namespace WorkspaceIndex.Text

/-- The lines of a text, without their endings. -/
def lines : List Char → List (List Char)
  | [] => []
  | '\n' :: rest => [] :: lines rest
  | '\r' :: '\n' :: rest => [] :: lines rest
  | c :: rest =>
    match lines rest with
    | [] => [[c]]
    | line :: later => (c :: line) :: later

end WorkspaceIndex.Text
