import Anem.Instruction.Decode
import Anem.Proofs.Fields

namespace Anem.Instruction

open Mnemonic (code ofCode? ofCode?_eq_some)

/-- The word states the instruction. -/
inductive States (w : Word) : Instruction → Prop where
  | arith {op : Arith} {ra rb : Register} (opcode : w.opcode = 0) (first : w.high = ra)
      (second : w.middle = rb) (function : w.low = code op) : States w (.arith op ra rb)
  | shift {op : Shift} {ra : Register} {amount : Int} (opcode : w.opcode = 1)
      (first : w.high = ra) (second : w.middle = amount) (function : w.low = code op) :
      States w (.shift op ra amount)
  | stack {op : Stack} {reg : Register} (opcode : w.opcode = 2) (first : w.high = reg)
      (reserved : w.middle = 0) (function : w.low = code op) : States w (.stack op reg)
  | hiLoMove {op : HiLoMove} {reg : Register} (opcode : w.opcode = 14)
      (function : w.high = code op) (reserved : w.middle = 0) (last : w.low = reg) :
      States w (.hiLoMove op reg)
  | hiLoByte {op : HiLoByte} {data : Int} (opcode : w.opcode = 14)
      (function : w.high = code op) (byte : w.byte = data) : States w (.hiLoByte op data)
  | hab (whole : w.toNat = 0xF000) : States w .hab
  | loadByte {op : LoadByte} {ra : Register} {value : Int} (opcode : w.opcode = code op)
      (first : w.high = ra) (byte : w.byte = value) : States w (.loadByte op ra (.literal value))
  | jumpRegister {ra : Register} (opcode : w.opcode = 7) (first : w.high = ra)
      (reserved : w.byte = 0) : States w (.transfer .jr ra .zero 0)
  | transfer {op : Transfer} {ra rb : Register} {offset : Int} (memory : op ≠ .jr)
      (opcode : w.opcode = code op) (first : w.high = ra) (second : w.middle = rb)
      (last : Field.signExtend w.low 4 = offset) : States w (.transfer op ra rb offset)
  | branch {p : Predicate} {target : Int} (opcode : w.opcode = 10)
      (predicate : w.toNat / 0x400 % 4 = code p) (rest : (w.toNat % 0x400 : Nat) = target) :
      States w (.jump .bz (.literal target) (some p))
  | jump {op : Jump} {target : Int} (plain : op ≠ .bz) (opcode : w.opcode = code op)
      (rest : (w.toNat % 0x1000 : Nat) = target) : States w (.jump op (.literal target) none)

theorem registerOf_val (r : Register) : registerOf r.val = r := by
  apply Fin.ext
  have := r.isLt
  simp only [registerOf]
  omega

theorem val_registerOf {n : Nat} (h : n < 16) : (registerOf n).val = n :=
  Nat.mod_eq_of_lt h

theorem registerOf_eq {n : Nat} {r : Register} (h : n = r.val) : registerOf n = r := by
  rw [h, registerOf_val]

theorem opcode_of_toNat {w : Word} (h : w.toNat = 0xF000) : w.opcode = 15 := by
  rw [Word.opcode, h]

/-- Where the opcode is no format of its own, it is a mnemonic. -/
theorem decode_of_opcode {w : Word} (above : 2 < w.opcode) (below : w.opcode < 14) :
    decode w = decodeOpcode w := by
  unfold decode
  split
  · omega
  · omega
  · omega
  · omega
  · omega
  · rfl

theorem decodeOpcode_of_states {w : Word} {ins : Instruction} (h : States w ins)
    (above : 2 < w.opcode) (below : w.opcode < 14) : decodeOpcode w = some ins := by
  cases h with
  | arith opcode | shift opcode | stack opcode | hiLoMove opcode | hiLoByte opcode => omega
  | hab whole =>
    have := opcode_of_toNat whole
    omega
  | loadByte opcode first byte =>
    simp [decodeOpcode, opcode, registerOf_eq first, byte]
  | jumpRegister opcode first reserved =>
    have load : ofCode? (α := LoadByte) 7 = none := rfl
    have found : ofCode? (α := Transfer) 7 = some .jr := rfl
    simp [decodeOpcode, opcode, load, found, reserved, registerOf_eq first]
  | @transfer op ra rb offset memory opcode first second last =>
    have load : ofCode? (α := LoadByte) (code op) = none := by cases op <;> rfl
    have found : ofCode? (α := Transfer) (code op) = some op := Mnemonic.ofCode?_code op
    cases op with
    | jr => exact absurd rfl memory
    | sw | lw =>
      simp [decodeOpcode, opcode, load, found, registerOf_eq first, registerOf_eq second, last]
  | @branch p target opcode predicate rest =>
    have load : ofCode? (α := LoadByte) 10 = none := rfl
    have transfer : ofCode? (α := Transfer) 10 = none := rfl
    have found : ofCode? (α := Jump) 10 = some .bz := rfl
    have known : ofCode? (α := Predicate) (code p) = some p := Mnemonic.ofCode?_code p
    simp only [decodeOpcode, opcode, load, transfer, found, predicate, known, Option.map_some, rest]
  | @jump op target plain opcode rest =>
    have load : ofCode? (α := LoadByte) (code op) = none := by cases op <;> rfl
    have transfer : ofCode? (α := Transfer) (code op) = none := by cases op <;> rfl
    have found : ofCode? (α := Jump) (code op) = some op := Mnemonic.ofCode?_code op
    cases op with
    | bz => exact absurd rfl plain
    | j | jal | bhleq => simp only [decodeOpcode, opcode, load, transfer, found, rest]

theorem decode_of_states {w : Word} {ins : Instruction} (h : States w ins) :
    decode w = some ins := by
  have mnemonic := fun lo hi => (decode_of_opcode lo hi).trans (decodeOpcode_of_states h lo hi)
  cases h with
  | arith opcode first second function =>
    simp [decode, opcode, function, registerOf_eq first, registerOf_eq second]
  | shift opcode first second function =>
    simp [decode, opcode, function, registerOf_eq first, second]
  | stack opcode first reserved function =>
    simp [decode, opcode, function, registerOf_eq first, reserved]
  | hiLoMove opcode function reserved last =>
    simp [decode, opcode, function, registerOf_eq last, reserved]
  | @hiLoByte op data opcode function byte =>
    have move : ofCode? (α := HiLoMove) (code op) = none := by cases op <;> rfl
    simp [decode, opcode, function, move, byte]
  | hab whole => simp [decode, opcode_of_toNat whole, whole]
  | @loadByte op ra value opcode first byte =>
    have bounds : 2 < code op ∧ code op < 14 := by cases op <;> decide
    exact mnemonic (by omega) (by omega)
  | jumpRegister opcode first reserved => exact mnemonic (by omega) (by omega)
  | @transfer op ra rb offset memory opcode first second last =>
    have bounds : 2 < code op ∧ code op < 14 := by cases op <;> decide
    exact mnemonic (by omega) (by omega)
  | branch opcode predicate rest => exact mnemonic (by omega) (by omega)
  | @jump op target plain opcode rest =>
    have bounds : 2 < code op ∧ code op < 14 := by cases op <;> decide
    exact mnemonic (by omega) (by omega)

theorem states_of_decodeOpcode {w : Word} {ins : Instruction} (h : decodeOpcode w = some ins) :
    States w ins := by
  have first := (val_registerOf w.high_lt).symm
  have second := (val_registerOf w.middle_lt).symm
  unfold decodeOpcode at h
  split at h
  · rename_i op found
    cases h
    exact .loadByte (ofCode?_eq_some.mp found).symm first rfl
  · split at h
    · rename_i found
      split at h
      · rename_i reserved
        cases h
        exact .jumpRegister (ofCode?_eq_some.mp found).symm first reserved
      · cases h
    · rename_i op memory found
      cases h
      exact .transfer memory (ofCode?_eq_some.mp found).symm first second rfl
    · split at h
      · rename_i found
        obtain ⟨p, known, rfl⟩ := Option.map_eq_some_iff.mp h
        exact .branch (ofCode?_eq_some.mp found).symm (ofCode?_eq_some.mp known).symm rfl
      · rename_i op plain found
        cases h
        exact .jump plain (ofCode?_eq_some.mp found).symm rfl
      · cases h

theorem states_of_decode {w : Word} {ins : Instruction} (h : decode w = some ins) :
    States w ins := by
  have first := (val_registerOf w.high_lt).symm
  have second := (val_registerOf w.middle_lt).symm
  have last := (val_registerOf w.low_lt).symm
  unfold decode at h
  split at h
  · rename_i opcode
    obtain ⟨op, known, rfl⟩ := Option.map_eq_some_iff.mp h
    exact .arith opcode first second (ofCode?_eq_some.mp known).symm
  · rename_i opcode
    obtain ⟨op, known, rfl⟩ := Option.map_eq_some_iff.mp h
    exact .shift opcode first rfl (ofCode?_eq_some.mp known).symm
  · rename_i opcode
    split at h
    · rename_i reserved
      obtain ⟨op, known, rfl⟩ := Option.map_eq_some_iff.mp h
      exact .stack opcode first reserved (ofCode?_eq_some.mp known).symm
    · cases h
  · rename_i opcode
    split at h
    · rename_i op known
      split at h
      · rename_i reserved
        cases h
        exact .hiLoMove opcode (ofCode?_eq_some.mp known).symm reserved last
      · cases h
    · obtain ⟨op, known, rfl⟩ := Option.map_eq_some_iff.mp h
      exact .hiLoByte opcode (ofCode?_eq_some.mp known).symm rfl
  · split at h
    · rename_i whole
      cases h
      exact .hab whole
    · cases h
  · exact states_of_decodeOpcode h

end Anem.Instruction
