import Anem.Field
import Anem.Instruction.Basic

/-!
The instruction of a word. A jump comes back with its target as a literal, so
that it has the same word at every address. Words with an unknown code or with
reserved bits set stand for no instruction.
-/
namespace Anem.Instruction

open Mnemonic (ofCode?)

/-- The register that the last four bits of a number select. -/
def registerOf (n : Nat) : Register := ⟨n % 16, Nat.mod_lt n (Nat.zero_lt_succ 15)⟩

/-- Words whose opcode is a mnemonic of its own. -/
def decodeOpcode (w : Word) : Option Instruction :=
  match ofCode? (α := LoadByte) w.opcode with
  | some op => some (.loadByte op (registerOf w.high) (.literal w.byte))
  | none => match ofCode? (α := Transfer) w.opcode with
    | some .jr =>
      if w.byte = 0 then some (.transfer .jr (registerOf w.high) .zero 0) else none
    | some op =>
      some (.transfer op (registerOf w.high) (registerOf w.middle) (Field.signExtend w.low 4))
    | none => match ofCode? (α := Jump) w.opcode with
      | some .bz =>
        (ofCode? (w.toNat / 0x400 % 4)).map fun p =>
          .jump .bz (.literal (w.toNat % 0x400 : Nat)) (some p)
      | some op => some (.jump op (.literal (w.toNat % 0x1000 : Nat)) none)
      | none => none

def decode (w : Word) : Option Instruction :=
  match w.opcode with
  | 0 => (ofCode? w.low).map fun op => .arith op (registerOf w.high) (registerOf w.middle)
  | 1 => (ofCode? w.low).map fun op => .shift op (registerOf w.high) w.middle
  | 2 =>
    if w.middle = 0 then (ofCode? w.low).map fun op => .stack op (registerOf w.high) else none
  | 14 => match ofCode? (α := HiLoMove) w.high with
    | some op => if w.middle = 0 then some (.hiLoMove op (registerOf w.low)) else none
    | none => (ofCode? w.high).map fun op => .hiLoByte op w.byte
  | 15 => if w.toNat = 0xF000 then some .hab else none
  | _ => decodeOpcode w

end Anem.Instruction
