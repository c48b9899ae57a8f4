import Anem.Fault

namespace Anem.Field

/-- How many numbers a field of `width` bits can hold. -/
def capacity (width : Nat) : Nat := 1 <<< width

def signed (value : Int) (width : Nat) : Except Fault Nat :=
  if value < - (capacity (width - 1) : Int) ∨ capacity (width - 1) ≤ value then
    .error (.fieldRange value width)
  else if value < 0 then .ok (capacity width + value).toNat
  else .ok value.toNat

def unsigned (value : Int) (width : Nat) : Except Fault Nat :=
  if value < 0 ∨ capacity width ≤ value then .error (.fieldRange value width)
  else .ok value.toNat

/-- A byte may be meant with or without a sign. -/
def byte (value : Int) : Except Fault Nat :=
  if value < -128 ∨ 255 < value then .error (.fieldRange value 8)
  else .ok (value % 256).toNat

/-- The number that a field of `width` bits holds in two's complement. -/
def signExtend (field width : Nat) : Int :=
  if capacity (width - 1) ≤ field then field - capacity width else field

end Anem.Field
