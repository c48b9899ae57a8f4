import Anem.Fault

namespace Anem

abbrev Register := Fin 16

namespace Register

/-- The register that always holds zero. -/
def zero : Register := ⟨0, Nat.zero_lt_succ 15⟩

def ofNat (n : Nat) : Except Fault Register :=
  if h : n < 16 then .ok ⟨n, h⟩ else .error (.fieldRange n 4)

def print (r : Register) : Text :=
  '$' :: Text.decimal r.val

/-- The number after the dollar sign: one or two digits. -/
def readNumber? : Text → Option Nat
  | '$' :: digits => if digits.length ≤ 2 then Text.readDigits? 10 digits else none
  | _ => none

theorem ofNat_eq_ok {n : Nat} {r : Register} : ofNat n = .ok r ↔ n = r.val := by
  unfold ofNat
  split
  · rename_i h
    simp only [Except.ok.injEq, Fin.ext_iff]
  · have := r.isLt
    simp only [reduceCtorEq, false_iff]
    omega

theorem ofNat_val (r : Register) : ofNat r.val = .ok r :=
  ofNat_eq_ok.mpr rfl

end Register

end Anem
