import Anem.Instruction.Encode
import Anem.Proofs.Instruction.Decoding
import Anem.Proofs.Instruction.Spelling

namespace Anem

/-- The number that an immediate stands for. -/
def Immediate.value (symbols : SymbolTable) : Immediate → Int
  | literal value => value
  | symbol name part => part.take ((symbols.get? name).getD 0)

/-- The number in the target field of a jump at `address`. -/
def Target.field (op : Jump) (address : Address) (symbols : SymbolTable) : Target → Int
  | literal value => value
  | label name => ((symbols.get? name).getD 0 - address.toNat) % Field.capacity op.targetWidth

theorem SymbolTable.resolve_eq_ok {table : SymbolTable} {name : Text} {value : Int} :
    table.resolve name = .ok value ↔ table.get? name = some value := by
  unfold resolve
  split <;> simp_all

theorem Immediate.value_of_resolve {symbols : SymbolTable} {i : Immediate} {v : Int}
    (h : i.resolve symbols = .ok v) : i.value symbols = v := by
  cases i with
  | literal value => simpa [Immediate.resolve, Immediate.value] using h
  | symbol name part =>
    unfold Immediate.resolve at h
    cases found : symbols.resolve name with
    | error cause => simp [found, Except.map] at h
    | ok value =>
      have bound := SymbolTable.resolve_eq_ok.mp found
      simpa [found, Except.map, Immediate.value, bound] using h

namespace Instruction

open Mnemonic (code)

/-- The instruction with every operand as the number that its field holds. A
name without a value counts as zero; no such instruction has a word. -/
def canonical (address : Address) (symbols : SymbolTable) : Instruction → Instruction
  | loadByte op ra byte => .loadByte op ra (.literal (byte.value symbols % 256))
  | jump op target predicate => .jump op (.literal (target.field op address symbols)) predicate
  | hiLoByte op data => .hiLoByte op (data % 256)
  | ins => ins

theorem encode_eq_ok {ins : Instruction} {address : Address} {symbols : SymbolTable} {w : Word} :
    ins.encode address symbols = .ok w ↔
      ∃ x, ins.operandField address symbols = .ok x ∧ Word.pack ins.opcode x = w := by
  unfold encode
  cases ins.operandField address symbols <;> simp [Except.map]

/-- A word is its opcode above its operand part. -/
theorem encode_of_fields {ins : Instruction} {address : Address} {symbols : SymbolTable} {w : Word}
    {x : Nat} (opcode : w.opcode = ins.opcode) (whole : w.toNat = w.opcode * 0x1000 + x)
    (field : ins.operandField address symbols = .ok x) : ins.encode address symbols = .ok w := by
  refine encode_eq_ok.mpr ⟨x, field, ?_⟩
  rw [Word.pack, ← opcode, ← whole, BitVec.ofNat_toNat, BitVec.setWidth_eq]

theorem byte_natCast {n : Nat} (h : n < 256) : Field.byte n = .ok n :=
  Field.byte_eq_ok.mpr (by omega)

theorem unsigned_natCast {n width : Nat} (h : n < Field.capacity width) :
    Field.unsigned n width = .ok n :=
  Field.unsigned_eq_ok.mpr (by omega)

theorem encode_of_states {w : Word} {ins : Instruction} (h : States w ins) (address : Address)
    (symbols : SymbolTable) : ins.encode address symbols = .ok w := by
  cases h with
  | arith opcode first second function =>
    refine encode_of_fields opcode w.toNat_digits ?_
    rw [first, second, function, operandField]
  | shift opcode first second function =>
    refine encode_of_fields opcode w.toNat_digits ?_
    rw [operandField, ← second, unsigned_natCast w.middle_lt, first, function]
    rfl
  | stack opcode first reserved function =>
    refine encode_of_fields opcode w.toNat_digits ?_
    rw [first, reserved, function, operandField, Nat.zero_mul, Nat.add_zero]
  | hiLoMove opcode function reserved last =>
    refine encode_of_fields opcode w.toNat_digits ?_
    rw [function, reserved, last, operandField, Nat.zero_mul, Nat.add_zero]
  | hiLoByte opcode function byte =>
    refine encode_of_fields opcode w.toNat_byte ?_
    rw [operandField, ← byte, byte_natCast w.byte_lt, function]
    rfl
  | hab whole =>
    refine encode_of_fields (opcode_of_toNat whole) (x := 0) ?_ rfl
    rw [opcode_of_toNat whole, whole]
  | loadByte opcode first byte =>
    refine encode_of_fields opcode w.toNat_byte ?_
    rw [operandField, Immediate.resolve, ← byte, first]
    simp only [bind, Except.bind, byte_natCast w.byte_lt]
    rfl
  | jumpRegister opcode first reserved =>
    have fits : Field.signed 0 4 = .ok 0 := rfl
    refine encode_of_fields opcode w.toNat_byte ?_
    simp [operandField, fits, first, reserved, Register.zero, bind, Except.bind, pure, Except.pure]
  | transfer memory opcode first second last =>
    refine encode_of_fields opcode w.toNat_digits ?_
    rw [operandField, ← last, Field.signed_signExtend w.low_lt, first, second]
    rfl
  | @branch p target opcode predicate rest =>
    have fits : Field.unsigned target Jump.bz.targetWidth = .ok (w.toNat % 0x400) := by
      rw [← rest]
      exact unsigned_natCast (Nat.mod_lt _ (by decide))
    refine encode_of_fields (x := code p * 0x400 + w.toNat % 0x400) opcode ?_ ?_
    · rw [← predicate, Word.opcode]
      omega
    · rw [operandField, targetField, fits]
      rfl
  | @jump op target plain opcode rest =>
    have fits : Field.unsigned target 12 = .ok (w.toNat % 0x1000) := by
      rw [← rest]
      exact unsigned_natCast (Nat.mod_lt _ (by decide))
    refine encode_of_fields opcode w.toNat_operands ?_
    rw [operandField, targetField]
    cases op with
    | bz => exact absurd rfl plain
    | j | jal | bhleq =>
      simp only [Jump.targetWidth, fits]
      rfl

theorem targetField_eq_ok {op : Jump} {address : Address} {symbols : SymbolTable} {target : Target}
    {f : Nat} (h : targetField op address symbols target = .ok f) :
    f < Field.capacity op.targetWidth ∧ (f : Int) = target.field op address symbols := by
  have width : op.targetWidth = op.targetWidth - 1 + 1 := by cases op <;> rfl
  cases target with
  | literal value =>
    obtain ⟨lo, hi, eq⟩ := Field.unsigned_eq_ok.mp h
    exact ⟨by omega, eq⟩
  | label name =>
    obtain ⟨value, bound, rest⟩ := Fault.bind_eq_ok.mp h
    have found := SymbolTable.resolve_eq_ok.mp bound
    simp only at rest
    split at rest
    · rename_i field fits
      cases rest
      rw [width] at fits
      obtain ⟨lo, hi, eq⟩ := Field.signed_eq_ok.mp fits
      have near : Field.capacity (op.targetWidth - 1) ≤ 0x800 := by cases op <;> decide
      have exact_distance : distance value address = value - address.toNat := by
        unfold distance Literal.least Literal.greatest at lo hi ⊢
        omega
      refine ⟨width ▸ Field.lt_capacity_of_signed fits, ?_⟩
      rw [Target.field, found, Option.getD_some, eq, exact_distance, ← width]
    · cases rest

theorem states_of_jump {op : Jump} {target : Target} {predicate : Option Predicate}
    (branch : predicate.isSome = true ↔ op = .bz) {address : Address} {symbols : SymbolTable}
    {x : Nat} (h : (jump op target predicate).operandField address symbols = .ok x) :
    States (.pack (code op) x)
      (.jump op (.literal (target.field op address symbols)) predicate) := by
  obtain ⟨f, fits, rest⟩ := Fault.bind_eq_ok.mp h
  obtain ⟨bound, eq⟩ := targetField_eq_ok fits
  rw [← eq]
  cases predicate with
  | some p =>
    obtain rfl : op = .bz := branch.mp rfl
    cases rest
    have hf : f < 0x400 := bound
    have hp : code p < 4 := by cases p <;> decide
    have whole := Word.toNat_pack (show code Jump.bz < 16 by decide)
      (show code p * 0x400 + f < 0x1000 by omega)
    refine .branch (Word.operands_pack (by decide) (by omega)).1 ?_ ?_
    · rw [whole]
      omega
    · rw [whole]
      omega
  | none =>
    have plain : op ≠ .bz := fun eq => by simpa using branch.mpr eq
    obtain rfl : f = x := by
      cases op with
      | bz => exact absurd rfl plain
      | j | jal | bhleq => simpa [pure, Except.pure] using rest
    have hf : f < 0x1000 := by
      cases op with
      | bz => exact absurd rfl plain
      | j | jal | bhleq => exact bound
    have hop : code op < 16 := by cases op <;> decide
    obtain ⟨opcode, whole⟩ := Word.operands_pack hop hf
    exact .jump plain opcode (by rw [whole])

theorem states_of_encode {ins : Instruction} (spelled : ins.Spelled) {address : Address}
    {symbols : SymbolTable} {w : Word} (h : ins.encode address symbols = .ok w) :
    States w (ins.canonical address symbols) := by
  obtain ⟨x, field, rfl⟩ := encode_eq_ok.mp h
  cases ins with
  | arith op ra rb =>
    cases field
    have hc : code op < 16 := by cases op <;> decide
    obtain ⟨opcode, first, second, function⟩ :=
      Word.digits_pack (show 0 < 16 by decide) ra.isLt rb.isLt hc
    exact .arith opcode first second function
  | shift op ra amount =>
    obtain ⟨f, fits, rest⟩ := Fault.bind_eq_ok.mp field
    cases rest
    obtain ⟨lo, hi, eq⟩ := Field.unsigned_eq_ok.mp fits
    have hf : f < 16 := by simp only [Field.capacity] at hi; omega
    have hc : code op < 16 := by cases op <;> decide
    obtain ⟨opcode, first, second, function⟩ :=
      Word.digits_pack (show 1 < 16 by decide) ra.isLt hf hc
    refine .shift opcode first ?_ function
    exact (congrArg Nat.cast second).trans eq
  | loadByte op ra byte =>
    obtain ⟨v, known, rest⟩ := Fault.bind_eq_ok.mp field
    obtain ⟨f, fits, rest⟩ := Fault.bind_eq_ok.mp rest
    cases rest
    obtain ⟨lo, hi, eq⟩ := Field.byte_eq_ok.mp fits
    have hop : code op < 16 := by cases op <;> decide
    obtain ⟨opcode, first, rest⟩ := Word.byte_pack hop ra.isLt (show f < 256 by omega)
    rw [canonical, Immediate.value_of_resolve known]
    exact .loadByte opcode first ((congrArg Nat.cast rest).trans eq)
  | jump op target predicate => exact states_of_jump spelled.2 field
  | transfer op ra rb offset =>
    obtain ⟨f, fits, rest⟩ := Fault.bind_eq_ok.mp field
    cases rest
    have hf : f < 16 := Field.lt_capacity_of_signed fits
    have hop : code op < 16 := by cases op <;> decide
    obtain ⟨opcode, first, second, last⟩ := Word.digits_pack hop ra.isLt rb.isLt hf
    by_cases jump : op = .jr
    · subst jump
      obtain ⟨rfl, rfl⟩ := spelled.2 rfl
      cases fits
      exact .jumpRegister opcode first (Word.byte_of_digits second last)
    · have extended := Field.signExtend_signed fits
      rw [← last] at extended
      exact .transfer jump opcode first second extended
  | hiLoByte op data =>
    obtain ⟨f, fits, rest⟩ := Fault.bind_eq_ok.mp field
    cases rest
    obtain ⟨lo, hi, eq⟩ := Field.byte_eq_ok.mp fits
    have hc : code op < 16 := by cases op <;> decide
    obtain ⟨opcode, function, rest⟩ :=
      Word.byte_pack (show 14 < 16 by decide) hc (show f < 256 by omega)
    exact .hiLoByte opcode function ((congrArg Nat.cast rest).trans eq)
  | hiLoMove op reg =>
    cases field
    have hc : code op < 16 := by cases op <;> decide
    obtain ⟨opcode, function, second, last⟩ :=
      Word.digits_pack (show 14 < 16 by decide) hc (show 0 < 16 by decide) reg.isLt
    rw [Nat.zero_mul, Nat.add_zero] at opcode function second last
    exact .hiLoMove opcode function second last
  | stack op reg =>
    cases field
    have hc : code op < 16 := by cases op <;> decide
    obtain ⟨opcode, first, second, function⟩ :=
      Word.digits_pack (show 2 < 16 by decide) reg.isLt (show 0 < 16 by decide) hc
    rw [Nat.zero_mul, Nat.add_zero] at opcode first second function
    exact .stack opcode first second function
  | hab =>
    cases field
    exact .hab rfl

/-- What a word states, a line can spell. -/
theorem spelled_of_states {w : Word} {ins : Instruction} (h : States w ins) : ins.Spelled := by
  cases h with
  | arith | stack | hiLoMove | hab => exact trivial
  | shift opcode first second function =>
    have := w.middle_lt
    exact Literal.inRange_of_small (by omega) (by omega)
  | hiLoByte opcode function byte =>
    have := w.byte_lt
    exact Literal.inRange_of_small (by omega) (by omega)
  | loadByte opcode first byte =>
    have := w.byte_lt
    exact Literal.inRange_of_small (by omega) (by omega)
  | jumpRegister opcode first reserved =>
    exact ⟨Literal.inRange_of_small (by decide) (by decide), fun _ => ⟨rfl, rfl⟩⟩
  | transfer memory opcode first second last =>
    refine ⟨?_, fun jump => absurd jump memory⟩
    have fits := Field.signed_signExtend (n := 3) w.low_lt
    obtain ⟨lo, hi, -⟩ := Field.signed_eq_ok.mp (last ▸ fits)
    have eight : Field.capacity 3 = 8 := rfl
    exact Literal.inRange_of_small (by omega) (by omega)
  | branch opcode predicate rest =>
    exact ⟨Literal.inRange_of_small (by omega) (by omega), by simp⟩
  | jump plain opcode rest =>
    exact ⟨Literal.inRange_of_small (by omega) (by omega), by simp [plain]⟩

theorem decode_of_encode {line : Text} {ins : Instruction} (read : parse line = .ok ins)
    {address : Address} {symbols : SymbolTable} {w : Word}
    (h : ins.encode address symbols = .ok w) : decode w = some (ins.canonical address symbols) :=
  decode_of_states (states_of_encode (spelled_of_parse read) h)

/-- A decoded word has the same word again, at any place in any program. -/
theorem encode_of_decode {w : Word} {ins : Instruction} (h : decode w = some ins)
    (address : Address) (symbols : SymbolTable) : ins.encode address symbols = .ok w :=
  encode_of_states (states_of_decode h) address symbols

theorem parse_of_decode {w : Word} {ins : Instruction} (h : decode w = some ins) :
    parse ins.print = .ok ins :=
  parse_print (spelled_of_states (states_of_decode h))

/-- **Encoding and decoding are mutually inverse up to canonical form.** The
decoded words are those that lines have, and lines that share a word, wherever
they stand, differ only in how they write the fields. -/
theorem decode_encode_inverse :
    (∀ (line : Text) (address : Address) (symbols : SymbolTable) (ins : Instruction) (w : Word),
      parse line = .ok ins → ins.encode address symbols = .ok w →
        decode w = some (ins.canonical address symbols)) ∧
    (∀ (w : Word) (ins : Instruction), decode w = some ins →
      ∀ (address : Address) (symbols : SymbolTable), ins.encode address symbols = .ok w) ∧
    (∀ w : Word, (decode w).isSome = true ↔
      ∃ line ins address symbols, parse line = .ok ins ∧ ins.encode address symbols = .ok w) ∧
    (∀ (line line' : Text) (address address' : Address) (symbols symbols' : SymbolTable)
      (ins ins' : Instruction) (w : Word), parse line = .ok ins → parse line' = .ok ins' →
        ins.encode address symbols = .ok w → ins'.encode address' symbols' = .ok w →
          ins.canonical address symbols = ins'.canonical address' symbols') := by
  refine ⟨?_, ?_, ?_, ?_⟩
  · intro line address symbols ins w read word
    exact decode_of_encode read word
  · intro w ins found address symbols
    exact encode_of_decode found address symbols
  · intro w
    constructor
    · intro some
      obtain ⟨ins, found⟩ := Option.isSome_iff_exists.mp some
      exact ⟨ins.print, ins, 0, .empty, parse_of_decode found, encode_of_decode found 0 .empty⟩
    · rintro ⟨line, ins, address, symbols, read, word⟩
      rw [decode_of_encode read word]
      rfl
  · intro line line' address address' symbols symbols' ins ins' w read read' word word'
    have same := (decode_of_encode read word).symm.trans (decode_of_encode read' word')
    exact Option.some.inj same

/-- A branch to the address before its own, and the literal branch of the same word. -/
theorem decode_encode_inverse_backward_branch :
    parse "BZ %BACK%,T".toList = .ok (.jump .bz (.label "BACK".toList) (some .t)) ∧
    (Instruction.jump .bz (.label "BACK".toList) (some .t)).encode 10
      (SymbolTable.empty.insert "BACK".toList 9) = .ok 0xA7FF ∧
    decode 0xA7FF = some (.jump .bz (.literal 1023) (some .t)) ∧
    (Instruction.jump .bz (.literal 1023) (some .t)).encode 0 .empty = .ok 0xA7FF := by
  have read : parse "BZ %BACK%,T".toList = .ok (.jump .bz (.label "BACK".toList) (some .t)) := by
    rfl
  have word : (Instruction.jump .bz (.label "BACK".toList) (some .t)).encode 10
      (SymbolTable.empty.insert "BACK".toList 9) = .ok 0xA7FF := by rfl
  have found := decode_encode_inverse.1 _ _ _ _ _ read word
  exact ⟨read, word, found, decode_encode_inverse.2.1 _ _ found 0 .empty⟩

end Instruction

end Anem
