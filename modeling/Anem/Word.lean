import Anem.Text.Numeral

/-!
The machine has sixteen-bit words in one flat space of sixteen-bit addresses.
A word is read as four hexadecimal digits: an opcode and three fields.
-/
namespace Anem

abbrev Word := BitVec 16

/-- The place of a word. -/
abbrev Address := BitVec 16

/-- The first number that is no address. -/
def addressLimit : Nat := 0x10000

namespace Word

def binary (w : Word) : Text :=
  Text.fixedDigits 2 16 w.toNat

/-- The word with the given opcode above a twelve-bit operand part. -/
def pack (opcode operands : Nat) : Word :=
  BitVec.ofNat 16 (opcode * 0x1000 + operands)

def opcode (w : Word) : Nat := w.toNat / 0x1000

def high (w : Word) : Nat := w.toNat / 0x100 % 16

def middle (w : Word) : Nat := w.toNat / 0x10 % 16

def low (w : Word) : Nat := w.toNat % 16

/-- The last two operand digits. -/
def byte (w : Word) : Nat := w.toNat % 0x100

theorem byte_eq (w : Word) : w.byte = w.middle * 16 + w.low := by
  simp only [byte, middle, low]
  omega

end Word

/-- An address as four hexadecimal digits. -/
def Address.hex (a : Address) : Text :=
  "0x".toList ++ Text.fixedDigits 16 4 a.toNat

end Anem
