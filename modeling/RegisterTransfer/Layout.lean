/-!
# Layout

Written descriptions are lines indented by two spaces a level.
-/

namespace RegisterTransfer.Layout

/-- Two spaces for every level. -/
def indentation : Nat → String
  | 0 => ""
  | depth + 1 => "  " ++ indentation depth

/-- An indented line with its end. -/
def line (depth : Nat) (text : String) : String :=
  indentation depth ++ text ++ "\n"

/-- An indentation followed by text, by text that ends a line, or by the bare end of a line. -/
inductive Piece
  | open (depth : Nat) (text : String)
  | closed (depth : Nat) (text : String)
  | blank (depth : Nat)

def Piece.text : Piece → String
  | .open depth text => indentation depth ++ text
  | .closed depth text => line depth text
  | .blank depth => line depth ""

def write (pieces : List Piece) : String := String.join (pieces.map Piece.text)

end RegisterTransfer.Layout
