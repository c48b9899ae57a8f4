import Anem.Immediate
import Anem.Register
import Anem.Text.Blank

namespace Anem

inductive Operand where
  /-- A dollar sign and a number, which need not name a register. -/
  | register (number : Nat)
  | immediate (value : Immediate)
  /-- An offset and the number of the base register in parentheses. -/
  | memory (offset : Immediate) (base : Nat)
  /-- A bare word, such as the predicate of a branch. -/
  | word (text : Text)
deriving DecidableEq, Repr

namespace Operand

def readMemory? (t : Text) : Option Operand :=
  if t.getLast? = some ')' then
    match Text.cutAt? '(' t.dropLast with
    | some (offset, base) =>
      match Register.readNumber? (Text.trim base), Immediate.read? (Text.trim offset) with
      | some base, some offset => some (memory offset base)
      | _, _ => none
    | none => none
  else none

def readWord? (t : Text) : Option Operand :=
  if Text.isIdentifier t then some (word t) else none

/-- The first class that the spelling belongs to. A run of digits is a number
before it is a word. -/
def read? (t : Text) : Option Operand :=
  readMemory? t <|> (Register.readNumber? t).map register <|>
    (Immediate.read? t).map immediate <|> readWord? t

end Operand

/-- A mnemonic and its operands. -/
structure Phrase where
  mnemonic : Text
  operands : List Operand
deriving DecidableEq, Repr

namespace Phrase

/-- The operands in the text after a mnemonic: none in a blank text. -/
def readOperands? (t : Text) : Option (List Operand) :=
  let list := Text.trim t
  if list.isEmpty then some []
  else (Text.splitAt ',' list).mapM fun piece => Operand.read? (Text.trim piece)

def read (line : Text) : Except Fault Phrase :=
  let line := Text.trim line
  let (mnemonic, rest) := Text.cutWord line
  if mnemonic.isEmpty then .error (.malformed line)
  else match readOperands? rest with
    | some operands => .ok ⟨mnemonic, operands⟩
    | none => .error (.malformed line)

end Phrase

end Anem
