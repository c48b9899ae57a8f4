import Anem.Text.Numeral

/-!
Number literals: hexadecimal and binary with a radix mark, or decimal. How much
of this a place in the source admits is its style. Whatever the style, the
number is a signed one of sixty-four bits.
-/
namespace Anem.Literal

def least : Int := -0x8000000000000000

def greatest : Int := 0x7FFFFFFFFFFFFFFF

/-- The literals that a place admits besides upper-case hexadecimal and plain
decimal ones. -/
structure Style where
  /-- The radix mark and hexadecimal digits may be in lower case. -/
  anyCase : Bool
  binary : Bool
  signed : Bool

/-- An operand admits every literal. -/
def Style.operand : Style := ⟨true, true, true⟩

/-- Constants and immediate words are written in upper case. -/
def Style.constant : Style := ⟨false, true, true⟩

/-- Addresses and halves are upper-case hexadecimal or plain decimal. -/
def Style.address : Style := ⟨false, false, false⟩

/-- The radix that the text opens with, and the digits under it. -/
def cutRadix? (style : Style) : Text → Option (Nat × Text)
  | '0' :: mark :: digits =>
    if mark = 'X' ∨ style.anyCase ∧ mark = 'x' then some (16, digits)
    else if style.binary ∧ (mark = 'B' ∨ style.anyCase ∧ mark = 'b') then some (2, digits)
    else none
  | _ => none

def readRadix? (style : Style) (radix : Nat) (digits : Text) : Option Int :=
  if style.anyCase || digits.all (! ·.isLower) then (Text.readDigits? radix digits).map Int.ofNat
  else none

/-- A decimal number; with a sign there is no radix mark. -/
def readDecimal? (style : Style) : Text → Option Int
  | '-' :: digits => if style.signed then (Text.readDigits? 10 digits).map (- Int.ofNat ·) else none
  | '+' :: digits => if style.signed then (Text.readDigits? 10 digits).map Int.ofNat else none
  | digits => (Text.readDigits? 10 digits).map Int.ofNat

/-- The number that a literal denotes, however large. -/
def denote? (style : Style) (t : Text) : Option Int :=
  match cutRadix? style t with
  | some (radix, digits) => readRadix? style radix digits
  | none => readDecimal? style t

def read? (style : Style) (t : Text) : Option Int :=
  (denote? style t).filter fun v => least ≤ v && v ≤ greatest

theorem read?_eq_some {style : Style} {t : Text} {v : Int} :
    read? style t = some v ↔ denote? style t = some v ∧ least ≤ v ∧ v ≤ greatest := by
  simp [read?, Option.filter_eq_some_iff]

end Anem.Literal
