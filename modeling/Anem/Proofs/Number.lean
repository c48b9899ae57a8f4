import Mathlib.Algebra.Ring.Int.Defs
import Mathlib.Algebra.Ring.Nat
import Anem.Proofs.Text.Numerals

/-!
Arithmetic on numbers of sixty-four bits. An operation has a result only if it
loses no bit. That is so exactly if some number equals the result of unbounded
arithmetic, and then this number comes out.
-/
namespace Anem

/-- A number that a literal can denote: sixty-four bits, the first of them a sign. -/
abbrev Number := BitVec 64

namespace Number

def add? (a b : Number) : Option Number :=
  if a.saddOverflow b then none else some (a + b)

def sub? (a b : Number) : Option Number :=
  if a.ssubOverflow b then none else some (a - b)

/-- The opposite number, which the least one does not have. -/
def neg? (a : Number) : Option Number :=
  if a.negOverflow then none else some (-a)

/-- The bits moved up by `n` places, if moving them down again brings all of them back. -/
def shiftLeft? (a : Number) (n : Nat) : Option Number :=
  if 64 ≤ n then none
  else if (a <<< n).sshiftRight n != a then none
  else some (a <<< n)

/-- The last sixteen bits, if the others are zeros. -/
def cut? (a : Number) : Option (BitVec 16) :=
  if (a.setWidth 16).setWidth 64 = a then some (a.setWidth 16) else none

theorem inRange_toInt (a : Number) : Literal.InRange a.toInt := by
  have lo := a.le_toInt
  have hi := a.toInt_lt
  unfold Literal.InRange Literal.least Literal.greatest
  omega

/-- Within the range of literals nothing wraps around. -/
theorem bmod_of_inRange {z : Int} (range : Literal.InRange z) : z.bmod (2 ^ 64) = z := by
  unfold Literal.InRange Literal.least Literal.greatest at range
  exact Int.bmod_eq_of_le (by omega) (by omega)

theorem exists_toInt {z : Int} (range : Literal.InRange z) : ∃ a : Number, a.toInt = z :=
  ⟨BitVec.ofInt 64 z, by rw [BitVec.toInt_ofInt, bmod_of_inRange range]⟩

/-- An operation computes `x` by wrapping the result `z` around, and its flag
tells whether `z` is out of range. Then what it keeps is `z` itself. -/
theorem kept_iff {lost : Bool} {x c : Number} {z : Int} (flag : lost = false ↔ Literal.InRange z)
    (wrapped : x.toInt = z.bmod (2 ^ 64)) :
    (if lost then none else some x) = some c ↔ c.toInt = z := by
  constructor
  · intro kept
    cases lost with
    | true => cases kept
    | false =>
      obtain rfl : x = c := Option.some.inj kept
      rw [wrapped, bmod_of_inRange (flag.mp rfl)]
  · rintro rfl
    have range := inRange_toInt c
    have same : x = c := BitVec.eq_of_toInt_eq (by rw [wrapped, bmod_of_inRange range])
    rw [flag.mpr range, same]
    rfl

theorem add?_eq_some {a b c : Number} : a.add? b = some c ↔ c.toInt = a.toInt + b.toInt := by
  refine kept_iff ?_ (BitVec.toInt_add a b)
  simp only [BitVec.saddOverflow, Literal.InRange, Literal.least, Literal.greatest,
    Bool.or_eq_false_iff, decide_eq_false_iff_not]
  omega

theorem sub?_eq_some {a b c : Number} : a.sub? b = some c ↔ c.toInt = a.toInt - b.toInt := by
  refine kept_iff ?_ BitVec.toInt_sub
  simp only [BitVec.ssubOverflow, Literal.InRange, Literal.least, Literal.greatest,
    Bool.or_eq_false_iff, decide_eq_false_iff_not]
  omega

theorem neg?_eq_some {a c : Number} : a.neg? = some c ↔ c.toInt = -a.toInt := by
  have range := inRange_toInt a
  refine kept_iff ?_ BitVec.toInt_neg
  simp only [BitVec.negOverflow, Literal.InRange, Literal.least, Literal.greatest,
    beq_eq_false_iff_ne] at range ⊢
  omega

/-- Shifting is multiplying by a power of two, and it wraps around as well. -/
theorem toInt_shiftLeft (a : Number) (n : Nat) :
    (a <<< n).toInt = (a.toInt * 2 ^ n).bmod (2 ^ 64) := by
  rw [BitVec.toInt_shiftLeft, BitVec.toInt_eq_toNat_bmod, Int.bmod_mul_bmod, Nat.shiftLeft_eq]
  push_cast
  rfl

/-- What a shift wraps to is a multiple of the same power, so that shifting back
tells whether it has wrapped around. -/
theorem shiftedBack_iff {a : Number} {n : Nat} (small : n < 64) :
    (a <<< n).sshiftRight n = a ↔ Literal.InRange (a.toInt * 2 ^ n) := by
  have positive : (0 : Int) < 2 ^ n := Int.pow_pos (by decide)
  rw [← BitVec.toInt_inj, BitVec.toInt_sshiftRight, Int.shiftRight_eq_div_pow]
  constructor
  · intro back
    have whole : ((2 ^ 64 : Nat) : Int) = 2 ^ n * 2 ^ (64 - n) := by
      rw [← Int.pow_add, Nat.add_sub_cancel' (Nat.le_of_lt small)]
      rfl
    have multiple : (2 : Int) ^ n ∣ (a <<< n).toInt := by
      rw [toInt_shiftLeft, Int.bmod_eq_self_sub_mul_bdiv, whole, Int.mul_assoc]
      exact Int.dvd_sub (Int.dvd_mul_left ..) (Int.dvd_mul_right ..)
    have exact_shift : (a <<< n).toInt = a.toInt * 2 ^ n := by
      rw [← Int.ediv_mul_cancel multiple]
      exact congrArg (· * (2 : Int) ^ n) back
    exact exact_shift ▸ inRange_toInt (a <<< n)
  · intro range
    rw [toInt_shiftLeft, bmod_of_inRange range]
    exact Int.mul_ediv_cancel _ (Int.ne_of_gt positive)

theorem shiftLeft?_eq_some {a c : Number} {n : Nat} (small : n < 64) :
    a.shiftLeft? n = some c ↔ c.toInt = a.toInt * 2 ^ n := by
  unfold shiftLeft?
  rw [if_neg (Nat.not_le.mpr small)]
  refine kept_iff ?_ (toInt_shiftLeft a n)
  rw [bne_eq_false_iff_eq, shiftedBack_iff small]

theorem cut?_eq_some {a : Number} {f : BitVec 16} :
    a.cut? = some f ↔ (f.toNat : Int) = a.toInt := by
  have sign := BitVec.toInt_eq_toNat_cond a
  have size := a.isLt
  unfold cut?
  constructor
  · intro kept
    split at kept
    · rename_i others
      obtain rfl : a.setWidth 16 = f := Option.some.inj kept
      have same := congrArg BitVec.toNat others
      rw [BitVec.toNat_setWidth, BitVec.toNat_setWidth] at same
      rw [BitVec.toNat_setWidth]
      split at sign <;> omega
    · cases kept
  · intro eq
    have small := f.isLt
    have same : a.toNat = f.toNat := by split at sign <;> omega
    have last : a.setWidth 16 = f := by
      apply BitVec.eq_of_toNat_eq
      rw [BitVec.toNat_setWidth, same, Nat.mod_eq_of_lt small]
    have others : f.setWidth 64 = a := by
      apply BitVec.eq_of_toNat_eq
      rw [BitVec.toNat_setWidth, same, Nat.mod_eq_of_lt (by omega)]
    rw [last, if_pos others]

/-- The last eight bits of a number are its remainder, also below zero. -/
theorem toInt_and_byte (v : Number) : (v &&& 0xFF).toInt = v.toInt % 256 := by
  have last : (v &&& 0xFF).toNat = v.toNat % 256 :=
    Nat.and_two_pow_sub_one_eq_mod v.toNat 8
  have sign := BitVec.toInt_eq_toNat_cond v
  rw [BitVec.toInt_eq_toNat_of_lt (by omega), last]
  split at sign <;> omega

end Number

end Anem
