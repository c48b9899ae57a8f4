import Anem.Image
import Anem.Text.Width

namespace Anem.Grid

abbrev Row := List Text

/-- The widths of the columns, each as wide as its widest cell. -/
def columnWidths (rows : List Row) : List Nat :=
  rows.foldl (fun widths row => widen widths (row.map Text.width)) []
where
  widen : List Nat → List Nat → List Nat
    | [], ws => ws
    | vs, [] => vs
    | v :: vs, w :: ws => max v w :: widen vs ws

/-- A cell and the blanks up to the next column, which is one further blank
away; nothing follows the last cell of a row. -/
def printRow : List Nat → Row → Text
  | _, [] => []
  | _, [cell] => cell
  | [], cell :: cells => cell ++ ' ' :: printRow [] cells
  | w :: ws, cell :: cells =>
    cell ++ List.replicate (w - Text.width cell) ' ' ++ ' ' :: printRow ws cells

def print (rows : List Row) : Text :=
  let widths := columnWidths rows
  rows.flatMap fun row => printRow widths row ++ ['\n']

/-- The format of an instruction text, or a question mark if it has none. -/
def formatName (text : Text) : Text :=
  match Instruction.parse text with
  | .ok ins => ins.format.name
  | .error _ => ['?']

/-- The word at an item's address, if it came from the item's line. -/
def ownWord (image : Image) (item : Item) : Text :=
  match image.at? item.address with
  | some word => if word.origin = item.origin then Word.binary word.bits else ['-']
  | none => ['-']

def row (image : Image) (item : Item) : Row :=
  [Address.hex item.address ++ [':'], Text.decimal item.origin, formatName item.text, item.text,
    "=>".toList, ownWord image item]

def ofImage (layout : Layout) (image : Image) : List Row :=
  layout.code.map (row image)

end Anem.Grid
