import Anem.Proofs.Fields
import Anem.Proofs.Instruction.References

namespace Anem

theorem Field.toInt_eq_signExtend {n : Nat} (x : BitVec (n + 1)) :
    x.toInt = signExtend x.toNat (n + 1) := by
  have double := capacity_succ n
  rw [BitVec.toInt_eq_toNat_cond, ← Nat.one_shiftLeft, ← capacity, signExtend, Nat.add_sub_cancel]
  split
  · rw [if_neg (by omega)]
  · rw [if_pos (by omega)]

namespace Jump

/-- How far a jump reaches: half of the numbers that its target field holds. -/
def reach : Jump → Int
  | bz => 0x200
  | j | jal | bhleq => 0x800

theorem width_eq (op : Jump) :
    op.targetWidth = op.targetWidth - 1 + 1 ∧ (Field.capacity (op.targetWidth - 1) : Int) = op.reach := by
  cases op with
  | bz | j | jal | bhleq => exact ⟨rfl, rfl⟩

theorem reach_le (op : Jump) : op.reach ≤ 0x800 := by
  cases op <;> decide

theorem signed_eq_ok {op : Jump} {d : Int} {f : Nat} :
    Field.signed d op.targetWidth = .ok f ↔
      -op.reach ≤ d ∧ d ≤ op.reach - 1 ∧ (f : Int) = d % Field.capacity op.targetWidth := by
  obtain ⟨width, half⟩ := op.width_eq
  rw [width, Field.signed_eq_ok, half]
  omega

/-- The target field takes the distances within reach. -/
theorem fits_iff {op : Jump} {d : Int} :
    (∃ f, Field.signed d op.targetWidth = .ok f) ↔ -op.reach ≤ d ∧ d ≤ op.reach - 1 := by
  constructor
  · rintro ⟨f, fits⟩
    obtain ⟨lo, hi, -⟩ := signed_eq_ok.mp fits
    exact ⟨lo, hi⟩
  · rintro ⟨lo, hi⟩
    have positive : (0 : Int) < Field.capacity op.targetWidth := by cases op <;> decide
    have rest := Int.emod_nonneg d (Int.ne_of_gt positive)
    exact ⟨(d % Field.capacity op.targetWidth).toNat, signed_eq_ok.mpr ⟨lo, hi, by omega⟩⟩

end Jump

namespace Instruction

open Mnemonic (name code)

/-- A value is at most so large that the distance to it is cut from below only. -/
theorem distance_of_inRange {value : Int} (range : Literal.InRange value) (address : Address) :
    distance value address = max Literal.least (value - address.toNat) := by
  unfold Literal.InRange Literal.greatest at range
  unfold distance Literal.greatest
  omega

/-- Cutting the distance makes no difference to the field. -/
theorem signed_distance (op : Jump) (value : Int) (address : Address) (f : Nat) :
    Field.signed (distance value address) op.targetWidth = .ok f ↔
      Field.signed (value - address.toNat) op.targetWidth = .ok f := by
  have near := op.reach_le
  have cut : -op.reach ≤ distance value address ∧ distance value address ≤ op.reach - 1 ∨
      -op.reach ≤ value - address.toNat ∧ value - address.toNat ≤ op.reach - 1 →
        distance value address = value - address.toNat := by
    unfold distance Literal.least Literal.greatest
    omega
  rw [Jump.signed_eq_ok, Jump.signed_eq_ok]
  constructor
  · rintro ⟨lo, hi, eq⟩
    have uncut := cut (Or.inl ⟨lo, hi⟩)
    rw [uncut] at lo hi eq
    exact ⟨lo, hi, eq⟩
  · rintro ⟨lo, hi, eq⟩
    rw [cut (Or.inr ⟨lo, hi⟩)]
    exact ⟨lo, hi, eq⟩

theorem fields_of_jump {op : Jump} {predicate : Option Predicate}
    (whole : predicate.isSome = true ↔ op = .bz) {f : Nat}
    (small : f < Field.capacity op.targetWidth) :
    let w := Word.pack (code op) (jumpField f predicate)
    w.opcode = code op ∧ w.toNat % Field.capacity op.targetWidth = f ∧
      ∀ p, predicate = some p → w.toNat / 0x400 % 4 = code p := by
  cases predicate with
  | some p =>
    obtain rfl : op = .bz := whole.mp rfl
    have bound : f < 0x400 := small
    have two : code p < 4 := by cases p <;> decide
    have eq := Word.toNat_pack (show code Jump.bz < 16 by decide)
      (show code p * 0x400 + f < 0x1000 by omega)
    have size : Field.capacity Jump.bz.targetWidth = 0x400 := rfl
    simp only [jumpField, Word.opcode, eq, size]
    refine ⟨by omega, by omega, ?_⟩
    rintro _ ⟨rfl⟩
    omega
  | none =>
    have size : Field.capacity op.targetWidth = 0x1000 := by
      cases op with
      | bz => cases whole.mpr rfl
      | j | jal | bhleq => rfl
    have known : code op < 16 := by cases op <;> decide
    rw [size] at small ⊢
    obtain ⟨opcode, rest⟩ := Word.operands_pack known small
    refine ⟨opcode, rest, ?_⟩
    intro p given
    cases given

/-- The low bits of a jump's word are the distance in two's complement. -/
theorem toInt_of_jump {op : Jump} {d : Int} {f : Nat} {w : Word}
    (fits : Field.signed d op.targetWidth = .ok f)
    (low : w.toNat % Field.capacity op.targetWidth = f) :
    (w.setWidth op.targetWidth).toInt = d := by
  have bits : (w.setWidth op.targetWidth).toNat = f := by
    rw [BitVec.toNat_setWidth, ← low, Field.capacity, Nat.one_shiftLeft]
  rw [op.width_eq.1] at fits bits ⊢
  rw [Field.toInt_eq_signExtend, bits]
  exact Field.signExtend_signed fits

/-- **Jumps to symbols are exact.** With `d` the distance from the address of the
jump to the value of its symbol, the jump has a word exactly if `d` is within
reach. The target field of the word is then `d` in two's complement, beside the
opcode and the predicate. Otherwise the jump is too far, by `d` or by the least
number there is. That the distance is cut never shows in a word. -/
theorem jump_distance_exact {line label : Text} {op : Jump} {predicate : Option Predicate}
    (read : parse line = .ok (.jump op (.label label) predicate)) (address : Address)
    {symbols : SymbolTable} {value : Int} (range : Literal.InRange value)
    (bound : symbols.get? label = some value) :
    let outcome := (Instruction.jump op (.label label) predicate).encode address symbols
    let d := value - address.toNat
    ((∃ w, outcome = .ok w) ↔ -op.reach ≤ d ∧ d ≤ op.reach - 1) ∧
    (∀ w, outcome = .ok w → (w.setWidth op.targetWidth).toInt = d ∧ w.opcode = code op ∧
      (op = .bz → ∃ p, predicate = some p ∧ w.toNat / 0x400 % 4 = code p)) ∧
    (¬ (-op.reach ≤ d ∧ d ≤ op.reach - 1) →
      outcome = .error (.displacement address (name op) (max Literal.least d))) ∧
    ∀ f, Field.signed (distance value address) op.targetWidth = .ok f ↔
      Field.signed d op.targetWidth = .ok f := by
  have whole : predicate.isSome = true ↔ op = .bz := (spelled_of_parse read).2
  have word := encode_jump bound whole address
  have same := signed_distance op value address
  intro outcome d
  cases fits : Field.signed (distance value address) op.targetWidth with
  | ok f =>
    have exact_fit : Field.signed d op.targetWidth = .ok f := (same f).mp fits
    have within := Jump.fits_iff.mp ⟨f, exact_fit⟩
    have small : f < Field.capacity op.targetWidth := by
      have width := op.width_eq.1
      rw [width] at exact_fit ⊢
      exact Field.lt_capacity_of_signed exact_fit
    obtain ⟨opcode, low, predicates⟩ := fields_of_jump whole small
    rw [fits] at word
    refine ⟨⟨fun _ => within, fun _ => ⟨_, word⟩⟩, ?_, fun far => absurd within far, fits ▸ same⟩
    intro w found
    obtain rfl : _ = w := Except.ok.inj (word.symm.trans found)
    refine ⟨toInt_of_jump exact_fit low, opcode, ?_⟩
    intro branch
    obtain ⟨p, given⟩ := Option.isSome_iff_exists.mp (whole.mpr branch)
    exact ⟨p, given, predicates p given⟩
  | error cause =>
    have far : ¬ (-op.reach ≤ d ∧ d ≤ op.reach - 1) := by
      intro within
      obtain ⟨f, exact_fit⟩ := Jump.fits_iff.mpr within
      cases fits.symm.trans ((same f).mpr exact_fit)
    rw [fits] at word
    refine ⟨⟨?_, fun within => absurd within far⟩, ?_, ?_, fits ▸ same⟩
    · rintro ⟨w, found⟩
      cases word.symm.trans found
    · intro w found
      cases word.symm.trans found
    · intro _
      rw [distance_of_inRange range address] at word
      exact word

/-- A call as far back as it can go, and a branch whose distance is below every
number of a literal. -/
theorem jump_distance_exact_limits :
    (Instruction.jump .jal (.label "TOP".toList) none).encode 0xFFFF
      (SymbolTable.empty.insert "TOP".toList 0xF7FF) = .ok 0x9800 ∧
    ((0x9800 : Word).setWidth 12).toInt = 0xF7FF - 0xFFFF ∧
    (Instruction.jump .bz (.label "FAR".toList) (some .n)).encode 1
      (SymbolTable.empty.insert "FAR".toList Literal.least) =
        .error (.displacement 1 "BZ".toList Literal.least) := by
  have call : parse "JAL %TOP%".toList = .ok (.jump .jal (.label "TOP".toList) none) := by rfl
  have branch : parse "BZ %FAR%,N".toList = .ok (.jump .bz (.label "FAR".toList) (some .n)) := by rfl
  have word : (Instruction.jump .jal (.label "TOP".toList) none).encode 0xFFFF
      (SymbolTable.empty.insert "TOP".toList 0xF7FF) = .ok 0x9800 := by rfl
  have top : (SymbolTable.empty.insert "TOP".toList 0xF7FF).get? "TOP".toList = some 0xF7FF := rfl
  have least : (SymbolTable.empty.insert "FAR".toList Literal.least).get? "FAR".toList =
      some Literal.least := rfl
  obtain ⟨-, low, -⟩ := jump_distance_exact call 0xFFFF ⟨by decide, by decide⟩ top
  obtain ⟨-, -, far, -⟩ := jump_distance_exact branch 1 ⟨by decide, by decide⟩ least
  exact ⟨word, (low _ word).1, far (by decide)⟩

end Instruction

end Anem
