import Anem.Immediate
import Anem.Mnemonic
import Anem.Register

/-!
Instructions, one word each. The top four bits are the opcode, and the other
twelve are laid out by format:

* `R` two registers and a function, `S` a register, a shift amount and a function;
* `Stk` a register and a function, `W` two registers and an offset;
* `J` a target, below a predicate for a branch on zero;
* `L` a register and a byte, `M1` a function and a byte, `M3` a function and a register;
* `Hab` nothing.
-/
namespace Anem

inductive Format where
  | r | s | l | j | w | m1 | m3 | stk | hab
deriving DecidableEq, Repr

def Format.name : Format → Text
  | r => "R".toList
  | s => "S".toList
  | l => "L".toList
  | j => "J".toList
  | w => "W".toList
  | m1 => "M1".toList
  | m3 => "M3".toList
  | stk => "Stk".toList
  | hab => "Hab".toList

/-- Where a jump goes: to a target stored as it is written, or to a label,
which is stored as the distance to it. -/
inductive Target where
  | literal (value : Int)
  | label (name : Text)
deriving DecidableEq, Repr

def Target.print : Target → Text
  | literal value => Text.signedDecimal value
  | label name => '%' :: name ++ ['%']

inductive Instruction where
  | arith (op : Arith) (ra rb : Register)
  | shift (op : Shift) (ra : Register) (amount : Int)
  | loadByte (op : LoadByte) (ra : Register) (byte : Immediate)
  | jump (op : Jump) (target : Target) (predicate : Option Predicate)
  | transfer (op : Transfer) (ra rb : Register) (offset : Int)
  | hiLoByte (op : HiLoByte) (data : Int)
  | hiLoMove (op : HiLoMove) (reg : Register)
  | stack (op : Stack) (reg : Register)
  | hab
deriving DecidableEq, Repr

namespace Instruction

open Mnemonic (name code)

def format : Instruction → Format
  | arith .. => .r
  | shift .. => .s
  | loadByte .. => .l
  | jump .. => .j
  | transfer .. => .w
  | hiLoByte .. => .m1
  | hiLoMove .. => .m3
  | stack .. => .stk
  | hab => .hab

def opcode : Instruction → Nat
  | arith .. => 0
  | shift .. => 1
  | stack .. => 2
  | loadByte op _ _ => code op
  | jump op _ _ => code op
  | transfer op _ _ _ => code op
  | hiLoByte .. | hiLoMove .. => 14
  | hab => 15

/-- Two operands after a mnemonic. -/
def printPair (mnemonic first second : Text) : Text :=
  mnemonic ++ ' ' :: first ++ ',' :: ' ' :: second

/-- The canonical spelling, which reads back as the same instruction. -/
def print : Instruction → Text
  | arith op ra rb => printPair (name op) ra.print rb.print
  | shift op ra amount => printPair (name op) ra.print (Text.signedDecimal amount)
  | loadByte op ra byte => printPair (name op) ra.print byte.print
  | jump op target (some predicate) => name op ++ ' ' :: target.print ++ ',' :: name predicate
  | jump op target none => name op ++ ' ' :: target.print
  | transfer .jr ra _ _ => name Transfer.jr ++ ' ' :: ra.print
  | transfer op ra rb offset =>
    printPair (name op) ra.print (Text.signedDecimal offset ++ '(' :: rb.print ++ [')'])
  | hiLoByte op data => name op ++ ' ' :: Text.signedDecimal data
  | hiLoMove op reg => name op ++ ' ' :: reg.print
  | stack op reg => name op ++ ' ' :: reg.print
  | hab => "HAB".toList

end Instruction

end Anem
