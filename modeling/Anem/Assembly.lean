import Anem.Image
import Anem.Journal

namespace Anem

structure Assembly where
  statements : List Statement
  layout : Layout
  image : Image

namespace Assembly

def assemble (source : Text) : Run Assembly := do
  let statements ← (Statement.ofLines (SourceLine.ofSource source)).commit
  let layout ← (Layout.ofStatements statements).commit
  let image ← (Image.ofLayout layout).commit
  return ⟨statements, layout, image⟩

end Assembly

end Anem
