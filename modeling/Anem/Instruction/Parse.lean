import Anem.Instruction.Basic
import Anem.Operand

/-!
Reading an instruction from a line. The mnemonic fixes how many operands
follow and what each of them is. Operands are checked from left to right, and
a surplus one after the others.
-/
namespace Anem

/-- What a mnemonic asks for. -/
inductive Operation where
  | arith (op : Arith)
  | shift (op : Shift)
  | loadByte (op : LoadByte)
  | jump (op : Jump)
  | transfer (op : Transfer)
  | hiLoByte (op : HiLoByte)
  | hiLoMove (op : HiLoMove)
  | stack (op : Stack)
  | hab
deriving DecidableEq, Repr

namespace Operation

def ofName? (t : Text) : Option Operation :=
  (Mnemonic.ofName? t).map arith <|> (Mnemonic.ofName? t).map shift <|>
    (Mnemonic.ofName? t).map loadByte <|> (Mnemonic.ofName? t).map jump <|>
    (Mnemonic.ofName? t).map transfer <|> (Mnemonic.ofName? t).map hiLoByte <|>
    (Mnemonic.ofName? t).map hiLoMove <|> (Mnemonic.ofName? t).map stack <|>
    if t = "HAB".toList then some hab else none

end Operation

namespace Operand

/-! What one operand can be taken for; `line` is quoted when it cannot. -/

def toRegister (line : Text) : Operand → Except Fault Register
  | register number => Register.ofNat number
  | _ => .error (.malformed line)

/-- A shift amount may be written with a dollar sign. -/
def toAmount (line : Text) : Operand → Except Fault Int
  | register number => .ok number
  | immediate (.literal value) => .ok value
  | _ => .error (.malformed line)

def toLiteral (line : Text) : Operand → Except Fault Int
  | immediate (.literal value) => .ok value
  | _ => .error (.malformed line)

def toByte (line : Text) : Operand → Except Fault Immediate
  | immediate value => .ok value
  | _ => .error (.malformed line)

def toTarget (line : Text) : Operand → Except Fault Target
  | immediate (.literal value) => .ok (.literal value)
  | immediate (.symbol name .whole) => .ok (.label name)
  | _ => .error (.malformed line)

def toPredicate (line : Text) : Operand → Except Fault Predicate
  | word text =>
    match Mnemonic.ofName? text with
    | some predicate => .ok predicate
    | none => .error (.malformed line)
  | _ => .error (.malformed line)

/-- An offset and a base register; the offset has to be a number. -/
def toMemory (line : Text) : Operand → Except Fault (Int × Register)
  | memory (.literal offset) base => (Register.ofNat base).map fun rb => (offset, rb)
  | memory (.symbol ..) _ => .error (.symbolicOffset line)
  | _ => .error (.malformed line)

end Operand

namespace Operation

/-- Nothing is left over. -/
def endOfOperands (line : Text) (ins : Instruction) : List Operand → Except Fault Instruction
  | [] => .ok ins
  | _ :: _ => .error (.malformed line)

def one {α : Type} (line : Text) (first : Text → Operand → Except Fault α)
    (build : α → Instruction) : List Operand → Except Fault Instruction
  | [] => .error (.malformed line)
  | x :: rest => do
    let a ← first line x
    endOfOperands line (build a) rest

def two {α β : Type} (line : Text) (first : Text → Operand → Except Fault α)
    (second : Text → Operand → Except Fault β) (build : α → β → Instruction) :
    List Operand → Except Fault Instruction
  | [] => .error (.malformed line)
  | x :: rest => do
    let a ← first line x
    one line second (build a) rest

open Operand

/-- The operands that each operation takes. -/
def complete (line : Text) : Operation → List Operand → Except Fault Instruction
  | arith op => two line toRegister toRegister (.arith op)
  | shift op => two line toRegister toAmount (.shift op)
  | loadByte op => two line toRegister toByte (.loadByte op)
  | jump .bz => two line toTarget toPredicate fun target p => .jump .bz target (some p)
  | jump op => one line toTarget fun target => .jump op target none
  | transfer .jr => one line toRegister fun ra => .transfer .jr ra .zero 0
  | transfer op => two line toRegister toMemory fun ra m => .transfer op ra m.2 m.1
  | hiLoByte op => one line toLiteral (.hiLoByte op)
  | hiLoMove op => one line toRegister (.hiLoMove op)
  | stack op => one line toRegister (.stack op)
  | hab => endOfOperands line .hab

end Operation

namespace Instruction

def parse (text : Text) : Except Fault Instruction := do
  let line := Text.trim text
  let phrase ← Phrase.read line
  if isFloatingPoint phrase.mnemonic then
    throw (.unimplemented ("floating point instruction ".toList ++ phrase.mnemonic))
  match Operation.ofName? phrase.mnemonic with
  | some operation => operation.complete line phrase.operands
  | none => throw (.malformed line)

end Instruction

end Anem
