/-!
# Lines of a text

A line ends at a line feed, and a carriage return in front of the line feed belongs to the end of the line.
A text that ends with a line feed has no further line behind it.
-/

namespace RegisterTransfer.Text

/-- Cut after every line feed; `current` holds the line so far, last character first. -/
def splitLines (current : List Char) : List Char → List (List Char)
  | [] => if current.isEmpty then [] else [current.reverse]
  | '\n' :: rest =>
    match current with
    | '\r' :: before => before.reverse :: splitLines [] rest
    | _ => current.reverse :: splitLines [] rest
  | c :: rest => splitLines (c :: current) rest

def lines (text : String) : List String :=
  (splitLines [] text.toList).map String.ofList

end RegisterTransfer.Text
