/-!
# Lines

A line ends at a line feed, and a carriage return right before the line feed belongs to the ending.
A last line without a line feed counts when it is not empty, and keeps its carriage return.
-/

namespace MergeTrain.Text

/-- The lines of a text, without their endings. -/
def lines : List Char → List (List Char)
  | [] => []
  | '\r' :: '\n' :: rest => [] :: lines rest
  | c :: rest =>
    if c = '\n' then [] :: lines rest
    else
      match lines rest with
      | [] => [[c]]
      | line :: others => (c :: line) :: others

end MergeTrain.Text
