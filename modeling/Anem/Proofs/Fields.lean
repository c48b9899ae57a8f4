import Anem.Field

namespace Anem

namespace Field

theorem capacity_succ (n : Nat) : capacity (n + 1) = 2 * capacity n := by
  rw [capacity, capacity, Nat.shiftLeft_succ]

theorem unsigned_eq_ok {v : Int} {n f : Nat} :
    unsigned v n = .ok f ↔ 0 ≤ v ∧ v < capacity n ∧ (f : Int) = v := by
  unfold unsigned
  split
  · simp only [reduceCtorEq, false_iff]
    omega
  · simp only [Except.ok.injEq]
    omega

theorem signed_eq_ok {v : Int} {n f : Nat} :
    signed v (n + 1) = .ok f ↔
      -(capacity n : Int) ≤ v ∧ v < capacity n ∧ (f : Int) = v % capacity (n + 1) := by
  have double := capacity_succ n
  unfold signed
  simp only [Nat.add_sub_cancel]
  split
  · simp only [reduceCtorEq, false_iff]
    omega
  · rename_i fits
    have rem : v % capacity (n + 1) = if v < 0 then capacity (n + 1) + v else v := by
      split
      · rw [← Int.add_emod_left, Int.emod_eq_of_lt (by omega) (by omega)]
      · exact Int.emod_eq_of_lt (by omega) (by omega)
    rw [rem]
    split
    · simp only [Except.ok.injEq]
      omega
    · simp only [Except.ok.injEq]
      omega

theorem byte_eq_ok {v : Int} {f : Nat} :
    byte v = .ok f ↔ -128 ≤ v ∧ v ≤ 255 ∧ (f : Int) = v % 256 := by
  unfold byte
  split
  · simp only [reduceCtorEq, false_iff]
    omega
  · simp only [Except.ok.injEq]
    omega

theorem lt_capacity_of_signed {v : Int} {n f : Nat} (h : signed v (n + 1) = .ok f) :
    f < capacity (n + 1) := by
  obtain ⟨lo, hi, eq⟩ := signed_eq_ok.mp h
  have double := capacity_succ n
  have := Int.emod_lt_of_pos v (by omega : (0 : Int) < capacity (n + 1))
  omega

/-- Reading a field in two's complement undoes writing it. -/
theorem signExtend_signed {v : Int} {n f : Nat} (h : signed v (n + 1) = .ok f) :
    signExtend f (n + 1) = v := by
  have double := capacity_succ n
  unfold signed at h
  unfold signExtend
  simp only [Nat.add_sub_cancel] at h ⊢
  split at h
  · cases h
  · split at h
    · cases h
      split <;> omega
    · cases h
      split <;> omega

/-- Every field is the two's complement of the number it holds. -/
theorem signed_signExtend {n f : Nat} (h : f < capacity (n + 1)) :
    signed (signExtend f (n + 1)) (n + 1) = .ok f := by
  have double := capacity_succ n
  unfold signed signExtend
  simp only [Nat.add_sub_cancel]
  split
  · rw [if_neg (by omega), if_pos (by omega)]
    exact congrArg Except.ok (by omega)
  · rw [if_neg (by omega), if_neg (by omega)]
    exact congrArg Except.ok (by omega)

end Field

namespace Word

theorem toNat_pack {op operands : Nat} (hop : op < 16) (h : operands < 0x1000) :
    (pack op operands).toNat = op * 0x1000 + operands := by
  rw [pack, BitVec.toNat_ofNat]
  omega

theorem digits_pack {op a b c : Nat} (hop : op < 16) (ha : a < 16) (hb : b < 16) (hc : c < 16) :
    (pack op (a * 0x100 + b * 0x10 + c)).opcode = op ∧
    (pack op (a * 0x100 + b * 0x10 + c)).high = a ∧
    (pack op (a * 0x100 + b * 0x10 + c)).middle = b ∧
    (pack op (a * 0x100 + b * 0x10 + c)).low = c := by
  have whole := toNat_pack hop (show a * 0x100 + b * 0x10 + c < 0x1000 by omega)
  simp only [opcode, high, middle, low, whole]
  omega

theorem byte_pack {op a f : Nat} (hop : op < 16) (ha : a < 16) (hf : f < 256) :
    (pack op (a * 0x100 + f)).opcode = op ∧ (pack op (a * 0x100 + f)).high = a ∧
    (pack op (a * 0x100 + f)).byte = f := by
  have whole := toNat_pack hop (show a * 0x100 + f < 0x1000 by omega)
  simp only [opcode, high, byte, whole]
  omega

theorem byte_of_digits {w : Word} (hm : w.middle = 0) (hl : w.low = 0) : w.byte = 0 := by
  rw [byte_eq, hm, hl]

theorem operands_pack {op x : Nat} (hop : op < 16) (hx : x < 0x1000) :
    (pack op x).opcode = op ∧ (pack op x).toNat % 0x1000 = x := by
  have whole := toNat_pack hop hx
  simp only [opcode, whole]
  omega

/-- The digits of a word, put together again. -/
theorem toNat_digits (w : Word) :
    w.toNat = w.opcode * 0x1000 + (w.high * 0x100 + w.middle * 0x10 + w.low) := by
  have := w.isLt
  simp only [opcode, high, middle, low]
  omega

theorem toNat_byte (w : Word) : w.toNat = w.opcode * 0x1000 + (w.high * 0x100 + w.byte) := by
  have := w.isLt
  simp only [opcode, high, byte]
  omega

theorem toNat_operands (w : Word) : w.toNat = w.opcode * 0x1000 + w.toNat % 0x1000 := by
  simp only [opcode]
  omega

theorem high_lt (w : Word) : w.high < 16 := Nat.mod_lt _ (by decide)

theorem middle_lt (w : Word) : w.middle < 16 := Nat.mod_lt _ (by decide)

theorem low_lt (w : Word) : w.low < 16 := Nat.mod_lt _ (by decide)

theorem byte_lt (w : Word) : w.byte < 256 := Nat.mod_lt _ (by decide)

end Word

end Anem
