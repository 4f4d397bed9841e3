import RegisterTransfer.Diagnostic
import RegisterTransfer.Text.Lines

/-!
# The text of diagnostics

A headline with the kind and the title, and a block for every footer, the first of which may be the place.
The lines of a footer stand below each other behind the name of its level; a footer without lines is left out.
-/

namespace RegisterTransfer.Diagnostic

def blanks (count : Nat) : String := String.ofList (List.replicate count ' ')

/-- The lines of a footer, continued below the end of its level's name. -/
def footerLines (level : Level) (text : String) : List String :=
  match Text.lines text with
  | [] => []
  | first :: rest =>
    let headline := if first.isEmpty then s!" = {level.text}" else s!" = {level.text}: {first}"
    headline :: rest.map fun line ↦ blanks (level.text.length + 5) ++ line

def text (diagnostic : Diagnostic) (withLocation : Bool) : String :=
  let place := if withLocation then [(Level.note, s!"at {diagnostic.loc.text}")] else []
  let blocks := (place ++ diagnostic.footers).flatMap fun footer ↦ footerLines footer.1 footer.2
  "\n".intercalate (s!"warning: {diagnostic.kind.text}: {diagnostic.title}" :: blocks)

/-- Several diagnostics with an empty line between them. -/
def textAll (diagnostics : List Diagnostic) (withLocation : Bool) : String :=
  "\n\n".intercalate (diagnostics.map fun diagnostic ↦ diagnostic.text withLocation)

end RegisterTransfer.Diagnostic
