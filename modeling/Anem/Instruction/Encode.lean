import Anem.Field
import Anem.Instruction.Basic
import Anem.SymbolTable

namespace Anem

def Immediate.resolve (symbols : SymbolTable) : Immediate → Except Fault Int
  | literal value => .ok value
  | symbol name part => (symbols.resolve name).map part.take

namespace Instruction

open Mnemonic (name code)

/-- The distance from an address to a label's value, kept within the numbers
that a literal can denote. -/
def distance (value : Int) (address : Address) : Int :=
  max Literal.least (min Literal.greatest (value - address.toNat))

def targetField (op : Jump) (address : Address) (symbols : SymbolTable) :
    Target → Except Fault Nat
  | .literal value => Field.unsigned value op.targetWidth
  | .label label => do
    let offset := distance (← symbols.resolve label) address
    match Field.signed offset op.targetWidth with
    | .ok field => .ok field
    | .error _ => .error (.displacement address (name op) offset)

/-- The bits below the opcode. -/
def operandField (ins : Instruction) (address : Address) (symbols : SymbolTable) :
    Except Fault Nat :=
  match ins with
  | arith op ra rb => .ok (ra * 0x100 + rb * 0x10 + code op)
  | shift op ra amount => do
    let field ← Field.unsigned amount 4
    return ra * 0x100 + field * 0x10 + code op
  | loadByte _ ra byte => do
    let field ← Field.byte (← byte.resolve symbols)
    return ra * 0x100 + field
  | jump op target predicate => do
    let field ← targetField op address symbols target
    match op, predicate with
    | .bz, some p => return code p * 0x400 + field
    | .bz, none => throw (.malformed ins.print)
    | _, _ => return field
  | transfer _ ra rb offset => do
    let field ← Field.signed offset 4
    return ra * 0x100 + rb * 0x10 + field
  | hiLoByte op data => do
    let field ← Field.byte data
    return code op * 0x100 + field
  | hiLoMove op reg => .ok (code op * 0x100 + reg)
  | stack op reg => .ok (reg * 0x100 + code op)
  | hab => .ok 0

def encode (ins : Instruction) (address : Address) (symbols : SymbolTable) : Except Fault Word :=
  (ins.operandField address symbols).map (Word.pack ins.opcode)

end Instruction

end Anem
