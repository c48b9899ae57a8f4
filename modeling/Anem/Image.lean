import Anem.Instruction.Encode
import Anem.Instruction.Parse
import Anem.Layout

/-!
The words of a program in address order, one for each address. Where several
instructions share an address, the last one that has a word wins.
-/
namespace Anem

structure Placed where
  address : Address
  origin : Nat
  bits : Word
deriving DecidableEq, Repr

namespace Item

def encode (symbols : SymbolTable) (item : Item) : Except Fault Word := do
  (← Instruction.parse item.text).encode item.address symbols

/-- What is reported of an item with this outcome. -/
def event (item : Item) : Except Fault Word → Event
  | .ok bits =>
    .debug (Address.hex item.address ++ ": ".toList ++ item.text ++ " => ".toList ++
      Word.binary bits)
  | .error cause =>
    if cause.isFatal then .fatal item.origin cause else .error item.origin cause

end Item

abbrev Image := List Placed

namespace Image

/-- Puts a word into its place in address order, unless the place is taken. -/
def insertIfNew (word : Placed) : Image → Image
  | [] => [word]
  | w :: ws =>
    if word.address < w.address then word :: w :: ws
    else if word.address = w.address then w :: ws
    else w :: insertIfNew word ws

/-- The last item comes first, so that it wins. -/
def ofOutcomes (outcomes : List (Item × Except Fault Word)) : Image :=
  outcomes.foldr (fun o image =>
    match o.2 with
    | .ok bits => insertIfNew ⟨o.1.address, o.1.origin, bits⟩ image
    | .error _ => image) []

def ofLayout (layout : Layout) : Traced Image :=
  let outcomes := layout.code.map fun item => (item, item.encode layout.symbols)
  ⟨ofOutcomes outcomes, (outcomes.map fun o => o.1.event o.2).toArray⟩

def at? (image : Image) (a : Address) : Option Placed :=
  image.find? (·.address == a)

end Image

end Anem
