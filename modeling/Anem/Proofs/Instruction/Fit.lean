import Anem.Proofs.Instruction.Canonical
import Anem.Proofs.Instruction.Distance

/-!
Which instructions have a word. `Laid` puts operands that fit side by side in
the twelve bits below the opcode, and `Misfit` names the fault of an operand
that does not fit. An instruction is laid out or misfits, and encoding tells
which; this holds of every instruction, also of those that no line spells.
-/
namespace Anem

/-- The number that an immediate stands for: a literal for itself, a symbol for
its value or for one half of it. -/
inductive Immediate.Denotes (symbols : SymbolTable) : Immediate → Int → Prop where
  | literal (value : Int) : Denotes symbols (.literal value) value
  | whole {name : Text} {value : Int} (bound : symbols.get? name = some value) :
    Denotes symbols (.symbol name .whole) value
  | upper {name : Text} {value : Int} (bound : symbols.get? name = some value) :
    Denotes symbols (.symbol name .upper) (value / 256)
  | lower {name : Text} {value : Int} (bound : symbols.get? name = some value) :
    Denotes symbols (.symbol name .lower) (value % 256)

/-- A target that a jump at `address` can hold, with the number that it holds: a
literal as it is, or the distance to the value of a label. -/
inductive Target.Reached (op : Jump) (address : Address) (symbols : SymbolTable) :
    Target → Int → Prop where
  | literal {value : Int} (low : 0 ≤ value) (high : value < 2 * op.reach) :
    Reached op address symbols (.literal value) value
  | label {name : Text} {value : Int} (bound : symbols.get? name = some value)
    (low : -op.reach ≤ value - address.toNat) (high : value - address.toNat < op.reach) :
    Reached op address symbols (.label name) (value - address.toNat)

namespace Instruction

open Mnemonic (name code)

/-- Four bits: a register, a function or nothing. -/
def digit (n : Nat) : BitVec 4 := BitVec.ofNat 4 n

/-- The twelve bits below the opcode of an instruction whose operands fit. A
predicate counts for a branch on zero only. -/
inductive Laid (address : Address) (symbols : SymbolTable) : Instruction → BitVec 12 → Prop where
  | arith (op : Arith) (ra rb : Register) :
    Laid address symbols (.arith op ra rb) (digit ra ++ digit rb ++ digit (code op))
  | shift (op : Shift) (ra : Register) {n : Int} (low : 0 ≤ n) (high : n ≤ 15) :
    Laid address symbols (.shift op ra n) (digit ra ++ BitVec.ofInt 4 n ++ digit (code op))
  | loadByte (op : LoadByte) (ra : Register) {byte : Immediate} {n : Int}
    (value : byte.Denotes symbols n) (low : -128 ≤ n) (high : n ≤ 255) :
    Laid address symbols (.loadByte op ra byte) (digit ra ++ BitVec.ofInt 8 n)
  | jump {op : Jump} (plain : op ≠ .bz) {target : Target} {n : Int}
    (reached : target.Reached op address symbols n) (predicate : Option Predicate) :
    Laid address symbols (.jump op target predicate) (BitVec.ofInt 12 n)
  | branch {target : Target} {n : Int} (reached : target.Reached .bz address symbols n)
    (p : Predicate) :
    Laid address symbols (.jump .bz target (some p)) (BitVec.ofNat 2 (code p) ++ BitVec.ofInt 10 n)
  | transfer (op : Transfer) (ra rb : Register) {n : Int} (low : -8 ≤ n) (high : n ≤ 7) :
    Laid address symbols (.transfer op ra rb n) (digit ra ++ digit rb ++ BitVec.ofInt 4 n)
  | hiLoByte (op : HiLoByte) {n : Int} (low : -128 ≤ n) (high : n ≤ 255) :
    Laid address symbols (.hiLoByte op n) (digit (code op) ++ BitVec.ofInt 8 n)
  | hiLoMove (op : HiLoMove) (reg : Register) :
    Laid address symbols (.hiLoMove op reg) (digit (code op) ++ digit 0 ++ digit reg)
  | stack (op : Stack) (reg : Register) :
    Laid address symbols (.stack op reg) (digit reg ++ digit 0 ++ digit (code op))
  | hab : Laid address symbols .hab (digit 0 ++ digit 0 ++ digit 0)

/-- The fault of an instruction with an operand that does not fit. A symbol
without a value comes before everything else, and a missing predicate after it. -/
inductive Misfit (address : Address) (symbols : SymbolTable) : Instruction → Fault → Prop where
  | unbound {ins : Instruction} {name : Text} (mentioned : ins.symbol? = some name)
    (absent : symbols.get? name = none) : Misfit address symbols ins (.undefinedSymbol name)
  | amount {op : Shift} {ra : Register} {n : Int} (outside : n < 0 ∨ 15 < n) :
    Misfit address symbols (.shift op ra n) (.fieldRange n 4)
  | byte {op : LoadByte} {ra : Register} {byte : Immediate} {n : Int}
    (value : byte.Denotes symbols n) (outside : n < -128 ∨ 255 < n) :
    Misfit address symbols (.loadByte op ra byte) (.fieldRange n 8)
  | offset {op : Transfer} {ra rb : Register} {n : Int} (outside : n < -8 ∨ 7 < n) :
    Misfit address symbols (.transfer op ra rb n) (.fieldRange n 4)
  | data {op : HiLoByte} {n : Int} (outside : n < -128 ∨ 255 < n) :
    Misfit address symbols (.hiLoByte op n) (.fieldRange n 8)
  | target {op : Jump} {n : Int} {predicate : Option Predicate}
    (outside : n < 0 ∨ 2 * op.reach ≤ n) :
    Misfit address symbols (.jump op (.literal n) predicate) (.fieldRange n op.targetWidth)
  | far {op : Jump} {label : Text} {predicate : Option Predicate} {value : Int}
    (bound : symbols.get? label = some value)
    (outside : value - address.toNat < -op.reach ∨ op.reach ≤ value - address.toNat) :
    Misfit address symbols (.jump op (.label label) predicate)
      (.displacement address (name op) (distance value address))
  | predicate {target : Target} {n : Int} (reached : target.Reached .bz address symbols n) :
    Misfit address symbols (.jump .bz target none)
      (.malformed (Instruction.jump .bz target none).print)

/-! Operands that fit -/

section Fields

open Anem.Field

theorem toNat_append {m n : Nat} (x : BitVec m) (y : BitVec n) :
    (x ++ y).toNat = x.toNat * capacity n + y.toNat := by
  rw [BitVec.toNat_append, ← Nat.shiftLeft_add_eq_or_of_lt y.isLt, Nat.shiftLeft_eq, capacity,
    Nat.one_shiftLeft]

theorem toNat_digit {n : Nat} (h : n < 16) : (digit n).toNat = n :=
  Nat.mod_eq_of_lt h

theorem toNat_digits (x y z : BitVec 4) :
    (x ++ y ++ z).toNat = x.toNat * 0x100 + y.toNat * 0x10 + z.toNat := by
  have sixteen : capacity 4 = 0x10 := rfl
  rw [toNat_append, toNat_append, sixteen]
  omega

theorem toNat_ofInt {width f : Nat} {v : Int} (h : (f : Int) = v % capacity width) :
    (BitVec.ofInt width v).toNat = f := by
  rw [capacity, Nat.one_shiftLeft] at h
  rw [BitVec.toNat_ofInt, ← h, Int.toNat_natCast]

theorem unsigned_of_fit {n : Nat} {v : Int} (low : 0 ≤ v) (high : v < capacity n) :
    unsigned v n = .ok (BitVec.ofInt n v).toNat := by
  have rest : ((v.toNat : Nat) : Int) = v := Int.toNat_of_nonneg low
  rw [toNat_ofInt (rest.trans (Int.emod_eq_of_lt low high).symm)]
  exact unsigned_eq_ok.mpr ⟨low, high, rest⟩

theorem signed_of_fit {n : Nat} {v : Int} (low : -(capacity n : Int) ≤ v) (high : v < capacity n) :
    signed v (n + 1) = .ok (BitVec.ofInt (n + 1) v).toNat := by
  have double := capacity_succ n
  have rest : ((v % capacity (n + 1)).toNat : Int) = v % capacity (n + 1) :=
    Int.toNat_of_nonneg (Int.emod_nonneg v (by omega))
  rw [toNat_ofInt rest]
  exact signed_eq_ok.mpr ⟨low, high, rest⟩

theorem byte_of_fit {v : Int} (low : -128 ≤ v) (high : v ≤ 255) :
    byte v = .ok (BitVec.ofInt 8 v).toNat := by
  have rest : ((v % 256).toNat : Int) = v % 256 := Int.toNat_of_nonneg (by omega)
  rw [toNat_ofInt rest]
  exact byte_eq_ok.mpr ⟨low, high, rest⟩

end Fields

end Instruction

namespace Immediate

variable {symbols : SymbolTable}

theorem Denotes.resolve {i : Immediate} {n : Int} (denotes : i.Denotes symbols n) :
    i.resolve symbols = .ok n := by
  cases denotes with
  | literal => rfl
  | whole bound =>
    rw [Immediate.resolve, SymbolTable.resolve_eq_ok.mpr bound]
    rfl
  | upper bound =>
    rw [Immediate.resolve, SymbolTable.resolve_eq_ok.mpr bound,
      ← Int.fdiv_eq_ediv_of_nonneg _ (by decide)]
    rfl
  | lower bound =>
    rw [Immediate.resolve, SymbolTable.resolve_eq_ok.mpr bound,
      ← Int.fmod_eq_emod_of_nonneg _ (by decide)]
    rfl

theorem denotes_of_bound {name : Text} {value : Int} (bound : symbols.get? name = some value)
    (part : Part) : ∃ n, Denotes symbols (.symbol name part) n := by
  cases part with
  | whole => exact ⟨_, .whole bound⟩
  | upper => exact ⟨_, .upper bound⟩
  | lower => exact ⟨_, .lower bound⟩

end Immediate

namespace Instruction

open Mnemonic (name code)

variable {address : Address} {symbols : SymbolTable}

theorem targetField_of_reached {op : Jump} {target : Target} {n : Int}
    (reached : target.Reached op address symbols n) :
    targetField op address symbols target = .ok (BitVec.ofInt op.targetWidth n).toNat := by
  obtain ⟨width, half⟩ := op.width_eq
  cases reached with
  | literal low high =>
    refine unsigned_of_fit low ?_
    have double := Field.capacity_succ (op.targetWidth - 1)
    rw [← width] at double
    omega
  | @label label value bound low high =>
    have fits : Field.signed (value - address.toNat) op.targetWidth =
        .ok (BitVec.ofInt op.targetWidth (value - address.toNat)).toNat := by
      rw [width]
      exact signed_of_fit (half ▸ low) (half ▸ high)
    have cut := (signed_distance op value address _).mpr fits
    simp only [targetField, SymbolTable.resolve_eq_ok.mpr bound, bind, Except.bind, cut]

theorem Laid.operandField {ins : Instruction} {x : BitVec 12} (laid : Laid address symbols ins x) :
    ins.operandField address symbols = .ok x.toNat := by
  cases laid with
  | arith op ra rb =>
    have small : code op < 16 := by cases op <;> decide
    rw [toNat_digits, toNat_digit ra.isLt, toNat_digit rb.isLt, toNat_digit small]
    rfl
  | shift op ra low high =>
    have small : code op < 16 := by cases op <;> decide
    rw [toNat_digits, toNat_digit ra.isLt, toNat_digit small, Instruction.operandField,
      unsigned_of_fit (n := 4) low (Int.lt_add_one_of_le high)]
    rfl
  | loadByte op ra value low high =>
    rw [toNat_append, toNat_digit ra.isLt, Instruction.operandField, value.resolve]
    simp only [bind, Except.bind, byte_of_fit low high]
    rfl
  | @jump op plain target n reached predicate =>
    rw [Instruction.operandField, targetField_of_reached reached]
    cases op with
    | bz => exact absurd rfl plain
    | j | jal | bhleq => rfl
  | branch reached p =>
    have small : code p < 4 := by cases p <;> decide
    have bits : (BitVec.ofNat 2 (code p)).toNat = code p := Nat.mod_eq_of_lt small
    rw [toNat_append, bits, Instruction.operandField, targetField_of_reached reached]
    rfl
  | transfer op ra rb low high =>
    rw [toNat_digits, toNat_digit ra.isLt, toNat_digit rb.isLt, Instruction.operandField,
      signed_of_fit (n := 3) low (Int.lt_add_one_of_le high)]
    rfl
  | hiLoByte op low high =>
    have small : code op < 16 := by cases op <;> decide
    rw [toNat_append, toNat_digit small, Instruction.operandField, byte_of_fit low high]
    rfl
  | hiLoMove op reg =>
    have small : code op < 16 := by cases op <;> decide
    rw [toNat_digits, toNat_digit small, toNat_digit reg.isLt, toNat_digit (by decide : 0 < 16),
      Nat.zero_mul, Nat.add_zero]
    rfl
  | stack op reg =>
    have small : code op < 16 := by cases op <;> decide
    rw [toNat_digits, toNat_digit small, toNat_digit reg.isLt, toNat_digit (by decide : 0 < 16),
      Nat.zero_mul, Nat.add_zero]
    rfl
  | hab => rfl

theorem opcode_lt (ins : Instruction) : ins.opcode < 16 := by
  cases ins with
  | arith | shift | stack | hiLoByte | hiLoMove | hab => exact of_decide_eq_true rfl
  | loadByte op ra byte =>
    have small : code op < 16 := by cases op <;> decide
    exact small
  | jump op target predicate =>
    have small : code op < 16 := by cases op <;> decide
    exact small
  | transfer op ra rb offset =>
    have small : code op < 16 := by cases op <;> decide
    exact small

/-- The word of an instruction is its opcode above its operands. -/
theorem Laid.encode {ins : Instruction} {w : Word} (opcode : w.opcode = ins.opcode)
    (laid : Laid address symbols ins (w.setWidth 12)) : ins.encode address symbols = .ok w := by
  refine encode_of_fields opcode w.toNat_operands ?_
  rw [laid.operandField, BitVec.toNat_setWidth]

/-- Opcode and operands are found in the word again. -/
theorem Laid.of_encode {ins : Instruction} {x : BitVec 12} (laid : Laid address symbols ins x)
    {w : Word} (word : ins.encode address symbols = .ok w) :
    w.opcode = ins.opcode ∧ w.setWidth 12 = x := by
  obtain ⟨y, field, rfl⟩ := encode_eq_ok.mp word
  cases laid.operandField.symm.trans field
  obtain ⟨opcode, low⟩ := Word.operands_pack ins.opcode_lt x.isLt
  refine ⟨opcode, BitVec.eq_of_toNat_eq ?_⟩
  rw [BitVec.toNat_setWidth]
  exact low

theorem encode_of_fault {ins : Instruction} {cause : Fault}
    (field : ins.operandField address symbols = .error cause) :
    ins.encode address symbols = .error cause := by
  rw [encode, field]
  rfl

theorem operandField_of_target {op : Jump} {target : Target} {predicate : Option Predicate}
    {cause : Fault} (field : targetField op address symbols target = .error cause) :
    (jump op target predicate).operandField address symbols = .error cause := by
  rw [operandField, field]
  rfl

/-- A misfit is what encoding reports. -/
theorem Misfit.encode {ins : Instruction} {cause : Fault}
    (misfit : Misfit address symbols ins cause) : ins.encode address symbols = .error cause := by
  cases misfit with
  | unbound mentioned absent => exact encode_of_unbound mentioned absent address
  | @amount op ra n outside =>
    have fault : Field.unsigned n 4 = .error (.fieldRange n 4) := if_pos outside
    apply encode_of_fault
    rw [operandField, fault]
    rfl
  | @byte op ra i n value outside =>
    have fault : Field.byte n = .error (.fieldRange n 8) := if_pos outside
    apply encode_of_fault
    rw [operandField, value.resolve]
    simp only [bind, Except.bind, fault]
  | @offset op ra rb n outside =>
    have fault : Field.signed n 4 = .error (.fieldRange n 4) := if_pos outside
    apply encode_of_fault
    rw [operandField, fault]
    rfl
  | @data op n outside =>
    have fault : Field.byte n = .error (.fieldRange n 8) := if_pos outside
    apply encode_of_fault
    rw [operandField, fault]
    rfl
  | @target op n predicate outside =>
    have size : (Field.capacity op.targetWidth : Int) = 2 * op.reach := by cases op <;> rfl
    exact encode_of_fault (operandField_of_target (if_pos (size ▸ outside)))
  | @far op label predicate value bound outside =>
    apply encode_of_fault
    apply operandField_of_target
    simp only [targetField, SymbolTable.resolve_eq_ok.mpr bound, bind, Except.bind]
    cases fits : Field.signed (distance value address) op.targetWidth with
    | error cause => rfl
    | ok f =>
      have near := Jump.fits_iff.mp ⟨f, (signed_distance op value address f).mp fits⟩
      omega
  | predicate reached =>
    apply encode_of_fault
    rw [operandField, targetField_of_reached reached]
    rfl

theorem reached_or_misfit (op : Jump) (target : Target) (predicate : Option Predicate) :
    (∃ n, target.Reached op address symbols n) ∨
      ∃ cause, Misfit address symbols (.jump op target predicate) cause := by
  cases target with
  | literal n =>
    by_cases fits : 0 ≤ n ∧ n < 2 * op.reach
    · exact Or.inl ⟨n, .literal fits.1 fits.2⟩
    · exact Or.inr ⟨_, .target (by omega)⟩
  | label label =>
    cases bound : symbols.get? label with
    | none => exact Or.inr ⟨_, .unbound rfl bound⟩
    | some value =>
      by_cases fits : -op.reach ≤ value - address.toNat ∧ value - address.toNat < op.reach
      · exact Or.inl ⟨_, .label bound fits.1 fits.2⟩
      · exact Or.inr ⟨_, .far bound (by omega)⟩

/-- Every instruction is laid out or misfits. -/
theorem laid_or_misfit (address : Address) (symbols : SymbolTable) (ins : Instruction) :
    (∃ x, Laid address symbols ins x) ∨ ∃ cause, Misfit address symbols ins cause := by
  cases ins with
  | arith op ra rb => exact Or.inl ⟨_, .arith op ra rb⟩
  | shift op ra n =>
    by_cases fits : 0 ≤ n ∧ n ≤ 15
    · exact Or.inl ⟨_, .shift op ra fits.1 fits.2⟩
    · exact Or.inr ⟨_, .amount (by omega)⟩
  | loadByte op ra byte =>
    have known : (∃ n, byte.Denotes symbols n) ∨
        ∃ cause, Misfit address symbols (.loadByte op ra byte) cause := by
      cases byte with
      | literal n => exact Or.inl ⟨n, .literal n⟩
      | symbol name part =>
        cases bound : symbols.get? name with
        | none => exact Or.inr ⟨_, .unbound rfl bound⟩
        | some value => exact Or.inl (Immediate.denotes_of_bound bound part)
    rcases known with ⟨n, value⟩ | misfit
    · by_cases fits : -128 ≤ n ∧ n ≤ 255
      · exact Or.inl ⟨_, .loadByte op ra value fits.1 fits.2⟩
      · exact Or.inr ⟨_, .byte value (by omega)⟩
    · exact Or.inr misfit
  | jump op target predicate =>
    rcases reached_or_misfit op target predicate with ⟨n, reached⟩ | misfit
    · by_cases branch : op = .bz
      · subst branch
        cases predicate with
        | some p => exact Or.inl ⟨_, .branch reached p⟩
        | none => exact Or.inr ⟨_, .predicate reached⟩
      · exact Or.inl ⟨_, .jump branch reached predicate⟩
    · exact Or.inr misfit
  | transfer op ra rb n =>
    by_cases fits : -8 ≤ n ∧ n ≤ 7
    · exact Or.inl ⟨_, .transfer op ra rb fits.1 fits.2⟩
    · exact Or.inr ⟨_, .offset (by omega)⟩
  | hiLoByte op n =>
    by_cases fits : -128 ≤ n ∧ n ≤ 255
    · exact Or.inl ⟨_, .hiLoByte op fits.1 fits.2⟩
    · exact Or.inr ⟨_, .data (by omega)⟩
  | hiLoMove op reg => exact Or.inl ⟨_, .hiLoMove op reg⟩
  | stack op reg => exact Or.inl ⟨_, .stack op reg⟩
  | hab => exact Or.inl ⟨_, .hab⟩

/-- **An instruction has a word exactly if its operands fit.** Then its opcode is
in the top four bits of the word and its operands are laid out in the others,
each in bits of its own; otherwise the fault is that of its misfit. -/
theorem encode_decided (ins : Instruction) (address : Address) (symbols : SymbolTable) :
    (∀ w, ins.encode address symbols = .ok w ↔
      w.opcode = ins.opcode ∧ Laid address symbols ins (w.setWidth 12)) ∧
    ∀ cause, ins.encode address symbols = .error cause ↔ Misfit address symbols ins cause := by
  refine ⟨fun w => ⟨?_, ?_⟩, fun cause => ⟨?_, Misfit.encode⟩⟩
  · intro word
    rcases laid_or_misfit address symbols ins with ⟨x, laid⟩ | ⟨fault, misfit⟩
    · obtain ⟨opcode, rfl⟩ := laid.of_encode word
      exact ⟨opcode, laid⟩
    · cases misfit.encode.symm.trans word
  · rintro ⟨opcode, laid⟩
    exact laid.encode opcode
  · intro failed
    rcases laid_or_misfit address symbols ins with ⟨x, laid⟩ | ⟨fault, misfit⟩
    · rw [Instruction.encode, laid.operandField] at failed
      cases failed
    · cases misfit.encode.symm.trans failed
      exact misfit

end Instruction

end Anem
