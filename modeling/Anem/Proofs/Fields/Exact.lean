import Mathlib.Algebra.Ring.Int.Defs
import Mathlib.Algebra.Ring.Nat
import Anem.Proofs.Fields
import Anem.Proofs.Number

namespace Anem

namespace Field

open Number

def field? (value : Number) : Option (Except Fault (BitVec 16)) :=
  value.cut?.map Except.ok

/-- The least and the greatest number in two's complement of `width` bits. -/
def limits? (width : Nat) : Option (Number × Number) := do
  let half ← shiftLeft? 1 (width - 1)
  let least ← half.neg?
  let greatest ← half.sub? 1
  return (least, greatest)

/-- Two's complement in `width` bits, one operation after the other. -/
def signed? (value : Number) (width : Nat) : Option (Except Fault (BitVec 16)) := do
  let (least, greatest) ← limits? width
  if value.slt least || greatest.slt value then
    return .error (.fieldRange value.toInt width)
  else if value.slt 0 then
    let whole ← shiftLeft? 1 width
    let sum ← whole.add? value
    field? sum
  else field? value

def unsigned? (value : Number) (width : Nat) : Option (Except Fault (BitVec 16)) := do
  let limit ← shiftLeft? 1 width
  if value.slt 0 || limit.sle value then
    return .error (.fieldRange value.toInt width)
  else field? value

/-- A byte is the last eight bits of the number. -/
def byte? (value : Number) : Option (Except Fault (BitVec 16)) :=
  if value.slt (-128) || (255 : Number).slt value then
    some (.error (.fieldRange value.toInt 8))
  else field? (value &&& 0xFF)

def signExtend? (field : BitVec 16) (width : Nat) : Option Number := do
  let value : Number := field.setWidth 64
  let half ← shiftLeft? 1 (width - 1)
  if half.sle value then
    let whole ← shiftLeft? 1 width
    value.sub? whole
  else return value

/-- No operation loses a bit, and together they come to the given outcome. -/
def Lossless (steps : Option (Except Fault (BitVec 16))) (outcome : Except Fault Nat) : Prop :=
  ∃ result, steps = some result ∧ result.map BitVec.toNat = outcome

theorem capacity_eq (n : Nat) : capacity n = 2 ^ n :=
  Nat.one_shiftLeft n

theorem natCast_capacity (n : Nat) : (capacity n : Int) = 2 ^ n := by
  rw [capacity_eq, Int.natCast_pow]
  rfl

theorem capacity_le {n : Nat} (small : n ≤ 16) : capacity n ≤ 0x10000 := by
  rw [capacity_eq]
  exact Nat.pow_le_pow_right (by decide) small

/-- The powers of two up to the sixteenth are numbers. -/
theorem exists_power {n : Nat} (small : n ≤ 16) :
    ∃ power : Number, shiftLeft? 1 n = some power ∧ power.toInt = capacity n := by
  have bound := capacity_le small
  obtain ⟨power, value⟩ := exists_toInt (Literal.inRange_of_small (v := capacity n) (by omega) (by omega))
  refine ⟨power, (shiftLeft?_eq_some (by omega)).mpr ?_, value⟩
  rw [value, natCast_capacity]
  exact (Int.one_mul _).symm

theorem exists_limits {n : Nat} (small : n ≤ 16) :
    ∃ least greatest : Number, limits? (n + 1) = some (least, greatest) ∧
      least.toInt = -(capacity n : Int) ∧ greatest.toInt = (capacity n : Int) - 1 := by
  have bound := capacity_le small
  obtain ⟨half, shifted, half_value⟩ := exists_power small
  obtain ⟨least, low⟩ := exists_toInt
    (Literal.inRange_of_small (v := -(capacity n : Int)) (by omega) (by omega))
  obtain ⟨greatest, high⟩ := exists_toInt
    (Literal.inRange_of_small (v := (capacity n : Int) - 1) (by omega) (by omega))
  have negated : half.neg? = some least := neg?_eq_some.mpr (low.trans (half_value ▸ rfl))
  have lowered : half.sub? 1 = some greatest := sub?_eq_some.mpr (high.trans (half_value ▸ rfl))
  refine ⟨least, greatest, ?_, low, high⟩
  unfold limits?
  simp only [Nat.add_sub_cancel, shifted, negated, lowered, Option.bind_eq_bind, Option.bind_some,
    Option.pure_def]

/-- A number that sixteen bits have room for is cut without a loss. -/
theorem lossless_field {a : Number} {f : Nat} (value : a.toInt = f) (room : f < 0x10000) :
    Lossless (field? a) (.ok f) := by
  have bits : (BitVec.ofNat 16 f).toNat = f := by
    rw [BitVec.toNat_ofNat, Nat.mod_eq_of_lt room]
  have cut : a.cut? = some (BitVec.ofNat 16 f) := cut?_eq_some.mpr (by rw [bits, value])
  unfold field?
  rw [cut]
  exact ⟨_, rfl, congrArg Except.ok bits⟩

theorem lossless_signed (v : Number) {n : Nat} (small : n < 16) :
    Lossless (signed? v (n + 1)) (signed v.toInt (n + 1)) := by
  have double := capacity_succ n
  have bound := capacity_le (show n + 1 ≤ 16 from small)
  obtain ⟨least, greatest, limits, low, high⟩ := exists_limits (Nat.le_of_lt small)
  obtain ⟨whole, shifted, whole_value⟩ := exists_power (show n + 1 ≤ 16 from small)
  have outside : (v.slt least || greatest.slt v) = true ↔
      v.toInt < -(capacity n : Int) ∨ capacity n ≤ v.toInt := by
    rw [Bool.or_eq_true, BitVec.slt_iff_toInt_lt, BitVec.slt_iff_toInt_lt, low, high]
    omega
  have negative : v.slt 0 = true ↔ v.toInt < 0 := BitVec.slt_iff_toInt_lt
  unfold signed? signed
  simp only [limits, outside, negative, shifted, Nat.add_sub_cancel, Option.bind_eq_bind,
    Option.bind_some]
  split
  · exact ⟨_, rfl, rfl⟩
  · rename_i fits
    split
    -- A negative number is counted back from the power above the field.
    · obtain ⟨sum, sum_value⟩ := exists_toInt
        (Literal.inRange_of_small (v := capacity (n + 1) + v.toInt) (by omega) (by omega))
      have added : whole.add? v = some sum := add?_eq_some.mpr (sum_value.trans (whole_value ▸ rfl))
      rw [added, Option.bind_some]
      exact lossless_field (by omega) (by omega)
    · exact lossless_field (by omega) (by omega)

theorem lossless_unsigned (v : Number) {n : Nat} (small : n ≤ 16) :
    Lossless (unsigned? v n) (unsigned v.toInt n) := by
  have bound := capacity_le small
  obtain ⟨limit, shifted, limit_value⟩ := exists_power small
  have outside : (v.slt 0 || limit.sle v) = true ↔ v.toInt < 0 ∨ capacity n ≤ v.toInt := by
    rw [Bool.or_eq_true, BitVec.slt_iff_toInt_lt, BitVec.sle_iff_toInt_le, limit_value]
    rfl
  unfold unsigned? unsigned
  simp only [shifted, outside, Option.bind_eq_bind, Option.bind_some]
  split
  · exact ⟨_, rfl, rfl⟩
  · exact lossless_field (by omega) (by omega)

theorem lossless_byte (v : Number) : Lossless (byte? v) (byte v.toInt) := by
  have outside : (v.slt (-128) || (255 : Number).slt v) = true ↔ v.toInt < -128 ∨ 255 < v.toInt := by
    rw [Bool.or_eq_true, BitVec.slt_iff_toInt_lt, BitVec.slt_iff_toInt_lt]
    rfl
  have last := toInt_and_byte v
  unfold byte? byte
  simp only [outside]
  split
  · exact ⟨_, rfl, rfl⟩
  · exact lossless_field (by omega) (by omega)

theorem lossless_signExtend (f : BitVec 16) {n : Nat} (small : n < 16) :
    ∃ v, signExtend? f (n + 1) = some v ∧ v.toInt = signExtend f.toNat (n + 1) := by
  have size := f.isLt
  have bound := capacity_le (show n + 1 ≤ 16 from small)
  obtain ⟨half, shifted_half, half_value⟩ := exists_power (Nat.le_of_lt small)
  obtain ⟨whole, shifted, whole_value⟩ := exists_power (show n + 1 ≤ 16 from small)
  have value : (f.setWidth 64 : Number).toInt = f.toNat := by
    have same : (f.setWidth 64).toNat = f.toNat := by
      rw [BitVec.toNat_setWidth, Nat.mod_eq_of_lt (by omega)]
    rw [BitVec.toInt_eq_toNat_of_lt (by omega), same]
  have upper : half.sle (f.setWidth 64) = true ↔ capacity n ≤ f.toNat := by
    rw [BitVec.sle_iff_toInt_le, half_value, value]
    omega
  unfold signExtend? signExtend
  simp only [shifted_half, shifted, upper, Nat.add_sub_cancel, Option.bind_eq_bind, Option.bind_some]
  split
  · obtain ⟨v, v_value⟩ := exists_toInt
      (Literal.inRange_of_small (v := f.toNat - capacity (n + 1)) (by omega) (by omega))
    exact ⟨v, sub?_eq_some.mpr (by rw [v_value, value, whole_value]), v_value⟩
  · exact ⟨_, rfl, value⟩

/-- What packing owes to a number: a field of that width which means the number,
exactly if the number fits, and otherwise the fault that names both. -/
structure Packs (packed : Except Fault Nat) (value : Int) (width : Nat) (fits : Prop)
    (means : Nat → Prop) : Prop where
  ok_iff : (∃ f, packed = .ok f) ↔ fits
  meant : ∀ f, packed = .ok f → f < 2 ^ width ∧ means f
  refused : ∀ cause, packed = .error cause → cause = .fieldRange value width

section Packs

variable {packed : Except Fault Nat} {value : Int} {width : Nat} {fits : Prop} {means : Nat → Prop}

theorem Packs.filled {f : Nat} (outcome : packed = .ok f) (fit : fits) (room : f < capacity width)
    (sense : means f) : Packs packed value width fits means := by
  subst outcome
  refine ⟨⟨fun _ => fit, fun _ => ⟨f, rfl⟩⟩, ?_, ?_⟩
  · rintro _ ⟨rfl⟩
    exact ⟨capacity_eq width ▸ room, sense⟩
  · intro cause failed
    cases failed

theorem Packs.misfit (outcome : packed = .error (.fieldRange value width)) (outside : ¬ fits) :
    Packs packed value width fits means := by
  subst outcome
  refine ⟨⟨?_, fun fit => absurd fit outside⟩, ?_, ?_⟩
  · rintro ⟨f, done⟩
    cases done
  · intro f done
    cases done
  · rintro _ ⟨rfl⟩
    rfl

end Packs

theorem packs_signed (v : Int) (n : Nat) :
    Packs (signed v (n + 1)) v (n + 1) (-2 ^ n ≤ v ∧ v ≤ 2 ^ n - 1)
      (fun f => signExtend f (n + 1) = v) := by
  rw [← natCast_capacity]
  by_cases outside : v < -(capacity n : Int) ∨ capacity n ≤ v
  · exact .misfit (if_pos outside) (by omega)
  · have double := capacity_succ n
    have rest := Int.emod_nonneg v (show (capacity (n + 1) : Int) ≠ 0 by omega)
    have packed : signed v (n + 1) = .ok (v % capacity (n + 1)).toNat :=
      signed_eq_ok.mpr ⟨by omega, by omega, by omega⟩
    exact .filled packed (by omega) (lt_capacity_of_signed packed) (signExtend_signed packed)

theorem packs_unsigned (v : Int) (n : Nat) :
    Packs (unsigned v n) v n (0 ≤ v ∧ v < 2 ^ n) (fun f => (f : Int) = v) := by
  rw [← natCast_capacity]
  unfold unsigned
  split
  · exact .misfit rfl (by omega)
  · exact .filled rfl (by omega) (by omega) (by omega)

theorem packs_byte (v : Int) :
    Packs (byte v) v 8 (-128 ≤ v ∧ v ≤ 255) (fun f => (f : Int) % 256 = v % 256) := by
  have eight : capacity 8 = 256 := rfl
  unfold byte
  split
  · exact .misfit rfl (by omega)
  · exact .filled rfl (by omega) (by omega) (by omega)

/-- **Packing is exact.** Every number of sixty-four bits goes into a field of one
to sixteen bits, or into a byte, exactly if it lies within the limits; what the
field holds is then the number, and otherwise the fault names number and width.
No operation on the way overflows, and cutting the outcome to sixteen bits loses
nothing. Reading a signed field and packing what it holds gives the field back. -/
theorem packing_exact (v : Number) {width : Nat} (positive : 0 < width) (small : width ≤ 16) :
    Packs (signed v.toInt width) v.toInt width
      (-2 ^ (width - 1) ≤ v.toInt ∧ v.toInt ≤ 2 ^ (width - 1) - 1)
      (fun f => signExtend f width = v.toInt) ∧
    Packs (unsigned v.toInt width) v.toInt width (0 ≤ v.toInt ∧ v.toInt < 2 ^ width)
      (fun f => (f : Int) = v.toInt) ∧
    Packs (byte v.toInt) v.toInt 8 (-128 ≤ v.toInt ∧ v.toInt ≤ 255)
      (fun f => (f : Int) % 256 = v.toInt % 256) ∧
    Lossless (signed? v width) (signed v.toInt width) ∧
    Lossless (unsigned? v width) (unsigned v.toInt width) ∧
    Lossless (byte? v) (byte v.toInt) ∧
    (∀ f : BitVec 16, ∃ n, signExtend? f width = some n ∧ n.toInt = signExtend f.toNat width) ∧
    ∀ f < 2 ^ width, signed (signExtend f width) width = .ok f := by
  obtain ⟨n, rfl⟩ : ∃ n, width = n + 1 := ⟨width - 1, by omega⟩
  refine ⟨packs_signed v.toInt n, packs_unsigned v.toInt (n + 1), packs_byte v.toInt,
    lossless_signed v small, lossless_unsigned v small, lossless_byte v,
    fun f => lossless_signExtend f small, ?_⟩
  intro f room
  rw [← capacity_eq] at room
  exact signed_signExtend room

/-- The least number of sixteen bits has a signed field, and no other. -/
theorem packing_exact_least :
    0 < 16 ∧ 16 ≤ 16 ∧ signed (-0x8000) 16 = .ok 0x8000 ∧ signExtend 0x8000 16 = -0x8000 ∧
    unsigned (-0x8000) 16 = .error (.fieldRange (-0x8000) 16) ∧
    byte (-0x8000) = .error (.fieldRange (-0x8000) 8) ∧
    Lossless (signed? (-0x8000) 16) (signed (-0x8000) 16) := by
  obtain ⟨field, -, -, steps, -⟩ :=
    packing_exact (-0x8000) (show 0 < 16 by decide) (Nat.le_refl 16)
  have packed : signed (-0x8000) 16 = .ok 0x8000 := rfl
  exact ⟨by decide, by decide, packed, (field.meant _ packed).2, rfl, rfl, steps⟩

end Field

end Anem
