import Anem.Text.Basic

/-!
Lines of a text. A line ends at a line feed, and a carriage return right
before the line feed belongs to the ending. What follows the last line feed is
a line too, as it stands, unless it is empty.
-/
namespace Anem.Text

/-- The pieces that a line feed ends, and what follows the last of them. -/
def cutLines (t : Text) : List Text × Text :=
  t.foldr (fun c cut =>
    if c = '\n' then ([] :: cut.1, cut.2)
    else match cut.1 with
      | [] => ([], c :: cut.2)
      | line :: others => ((c :: line) :: others, cut.2)) ([], [])

def dropCarriageReturn (line : Text) : Text :=
  if line.getLast? = some '\r' then line.dropLast else line

def lines (t : Text) : List Text :=
  let cut := cutLines t
  cut.1.map dropCarriageReturn ++ if cut.2.isEmpty then [] else [cut.2]

/-- Each line followed by a line feed. -/
def unlines (ls : List Text) : Text :=
  ls.flatMap fun line => line ++ ['\n']

end Anem.Text
