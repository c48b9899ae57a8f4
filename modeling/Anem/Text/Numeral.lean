import Anem.Text.Basic

namespace Anem.Text

def digitChar (d : Nat) : Char :=
  if d < 10 then Char.ofNat (0x30 + d) else Char.ofNat (0x37 + d)

/-- The value of a digit in either case; letters count from ten. -/
def digitValue? (c : Char) : Option Nat :=
  if c.isDigit then some (c.toNat - 0x30)
  else if 'a' ≤ c ∧ c ≤ 'f' then some (c.toNat - 0x57)
  else if 'A' ≤ c ∧ c ≤ 'F' then some (c.toNat - 0x37)
  else none

/-- The last `width` digits of `n` in the given base, with leading zeros. -/
def fixedDigits (base : Nat) : (width : Nat) → (n : Nat) → Text
  | 0, _ => []
  | width + 1, n => fixedDigits base width (n / base) ++ [digitChar (n % base)]

@[simp] theorem length_fixedDigits (base width n : Nat) : (fixedDigits base width n).length = width := by
  induction width generalizing n with
  | zero => rfl
  | succ width ih => simp [fixedDigits, ih]

def decimal (n : Nat) : Text :=
  Nat.toDigits 10 n

def signedDecimal (v : Int) : Text :=
  if v < 0 then '-' :: decimal v.natAbs else decimal v.natAbs

def appendDigit? (base : Nat) (n : Nat) (c : Char) : Option Nat :=
  match digitValue? c with
  | some d => if d < base then some (n * base + d) else none
  | none => none

/-- The number that the digits spell, if all of them are digits of the base. -/
def readFrom? (base : Nat) (n : Nat) (digits : Text) : Option Nat :=
  digits.foldlM (appendDigit? base) n

def readDigits? (base : Nat) (digits : Text) : Option Nat :=
  if digits.isEmpty then none else readFrom? base 0 digits

end Anem.Text
