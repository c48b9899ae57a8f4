import Anem.Literal

namespace Anem

/-- The part of a symbol's value that is meant. -/
inductive Part where
  | whole | upper | lower
deriving DecidableEq, Repr

namespace Part

def print : Part → Text
  | whole => []
  | upper => ['U']
  | lower => ['L']

def read? : Text → Option Part
  | [] => some whole
  | [c] =>
    if c = 'U' ∨ c = 'u' then some upper
    else if c = 'L' ∨ c = 'l' then some lower
    else none
  | _ => none

@[simp] theorem read?_print (part : Part) : read? part.print = some part := by
  cases part <;> rfl

/-- Division rounds down, so the halves of a negative value are those of its
two's complement. -/
def take (v : Int) : Part → Int
  | whole => v
  | upper => v.fdiv 256
  | lower => v.fmod 256

end Part

inductive Immediate where
  | literal (value : Int)
  | symbol (name : Text) (part : Part)
deriving DecidableEq, Repr

namespace Immediate

def print : Immediate → Text
  | literal value => Text.signedDecimal value
  | symbol name part => '%' :: name ++ '%' :: part.print

/-- A name between percent signs, and the part that is meant. -/
def readSymbol? : Text → Option (Text × Part)
  | '%' :: body =>
    match Text.cutAt? '%' body with
    | some (name, part) =>
      if Text.isIdentifier name then (Part.read? part).map fun part => (name, part) else none
    | none => none
  | _ => none

def read? (t : Text) : Option Immediate :=
  match readSymbol? t with
  | some (name, part) => some (symbol name part)
  | none => (Literal.read? .operand t).map literal

end Immediate

end Anem
