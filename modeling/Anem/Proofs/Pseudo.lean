import Anem.Proofs.Instruction.Canonical
import Anem.Pseudo

namespace Anem

open Text

namespace Text

theorem signedDecimal_natCast (n : Nat) : signedDecimal (n : Int) = decimal n := by
  rw [signedDecimal, if_neg (by omega), Int.natAbs_natCast]

end Text

namespace Instruction

open Mnemonic (code)

theorem encode_loadByte (op : LoadByte) (r : Register) {n : Nat} (small : n < 256)
    (address : Address) (symbols : SymbolTable) :
    (loadByte op r (.literal n)).encode address symbols =
      .ok (Word.pack (code op) (r * 0x100 + n)) := by
  simp only [encode, operandField, Immediate.resolve, bind, Except.bind, byte_natCast small]
  rfl

theorem encode_hiLoByte (op : HiLoByte) {n : Nat} (small : n < 256) (address : Address)
    (symbols : SymbolTable) :
    (hiLoByte op n).encode address symbols = .ok (Word.pack 14 (code op * 0x100 + n)) := by
  simp only [encode, operandField, bind, Except.bind, byte_natCast small]
  rfl

end Instruction

namespace Pseudo

/-- The digits after a dollar sign that name this register. -/
def Names (digits : Text) (r : Register) : Prop :=
  Register.readNumber? ('$' :: digits) = some r.val

instance (digits : Text) (r : Register) : Decidable (Names digits r) :=
  inferInstanceAs (Decidable (_ = _))

/-- The digits of the registers that a pseudo-instruction mentions. -/
def registers : Pseudo → List Text
  | loadWord register _ => [register]
  | move target source => [target, source]
  | loadHigh _ | loadLow _ => []

/-- Every register that is mentioned exists. -/
def Proper (p : Pseudo) : Prop :=
  ∀ digits ∈ p.registers, ∃ r, Names digits r

/-- The instructions that a pseudo-instruction stands for. -/
inductive Means : Pseudo → List Instruction → Prop where
  | loadWord {digits : Text} {r : Register} (word : Word) (named : Names digits r) :
    Means (.loadWord digits word)
      [.loadByte .liu r (.literal (word.toNat / 256 : Nat)),
       .loadByte .lil r (.literal (word.toNat % 256 : Nat)), .arith .add .zero .zero]
  | move {target source : Text} {r s : Register} (named : Names target r) (filled : Names source s) :
    Means (.move target source) [.arith .and r .zero, .arith .or r s]
  | loadHigh (word : Word) :
    Means (.loadHigh word)
      [.hiLoByte .lhh (word.toNat / 256 : Nat), .hiLoByte .lhl (word.toNat % 256 : Nat)]
  | loadLow (word : Word) :
    Means (.loadLow word)
      [.hiLoByte .llh (word.toNat / 256 : Nat), .hiLoByte .lll (word.toNat % 256 : Nat)]

theorem exists_means {p : Pseudo} (proper : p.Proper) : ∃ instructions, p.Means instructions := by
  cases p with
  | loadWord digits word =>
    obtain ⟨r, named⟩ := proper digits List.mem_cons_self
    exact ⟨_, .loadWord word named⟩
  | move target source =>
    obtain ⟨r, named⟩ := proper target List.mem_cons_self
    obtain ⟨s, filled⟩ := proper source (by simp [registers])
    exact ⟨_, .move named filled⟩
  | loadHigh word => exact ⟨_, .loadHigh word⟩
  | loadLow word => exact ⟨_, .loadLow word⟩

open Instruction (parse)

theorem parse_immediate (op : LoadByte) {digits : Text} {r : Register} (named : Names digits r)
    {i : Immediate} (spelled : i.Spelled) :
    parse (Instruction.printPair (Mnemonic.name op) ('$' :: digits) i.print) =
      .ok (.loadByte op r i) := by
  refine (Instruction.parse_printPair (.loadByte op) (Register.piece_of_readNumber? named)
    (Immediate.piece_print spelled) (Register.read?_of_readNumber? named)
    (Operand.read?_immediate spelled)).trans ?_
  exact Operation.two_eq_ok.mpr ⟨_, _, _, _, rfl, Instruction.toRegister_val _ r, rfl, rfl⟩

theorem parse_loadByte (op : LoadByte) {digits : Text} {r : Register} (named : Names digits r)
    (n : Nat) (small : n < 256) :
    parse (Instruction.printPair (Mnemonic.name op) ('$' :: digits) (decimal n)) =
      .ok (.loadByte op r (.literal n)) := by
  have range : Literal.InRange n := Literal.inRange_of_small (by omega) (by omega)
  rw [← signedDecimal_natCast]
  exact parse_immediate op named (i := .literal n) range

theorem parse_arith (op : Arith) {first second : Text} {r s : Register} (named : Names first r)
    (other : Names second s) :
    parse (Instruction.printPair (Mnemonic.name op) ('$' :: first) ('$' :: second)) =
      .ok (.arith op r s) := by
  refine (Instruction.parse_printPair (.arith op) (Register.piece_of_readNumber? named)
    (Register.piece_of_readNumber? other) (Register.read?_of_readNumber? named)
    (Register.read?_of_readNumber? other)).trans ?_
  exact Operation.two_eq_ok.mpr
    ⟨_, _, _, _, rfl, Instruction.toRegister_val _ r, Instruction.toRegister_val _ s, rfl⟩

theorem parse_hiLoByte (op : HiLoByte) (n : Nat) (small : n < 256) :
    parse (Mnemonic.name op ++ ' ' :: decimal n) = .ok (.hiLoByte op n) := by
  have spelled : (Instruction.hiLoByte op n).Spelled :=
    Literal.inRange_of_small (by omega) (by omega)
  have read := Instruction.parse_print spelled
  rw [Instruction.print, signedDecimal_natCast] at read
  exact read

open Instruction (printPair)

theorem expand_loadWord (digits : Text) (word : Word) :
    (loadWord digits word).expand =
      [printPair (Mnemonic.name LoadByte.liu) ('$' :: digits) (decimal (word.toNat / 256)),
       printPair (Mnemonic.name LoadByte.lil) ('$' :: digits) (decimal (word.toNat % 256)),
       printPair (Mnemonic.name Arith.add) ['$', '0'] ['$', '0']] := by
  rw [expand, byteByByte, List.append_assoc, List.append_assoc, List.append_assoc,
    List.append_assoc]
  rfl

theorem expand_move (target source : Text) :
    (move target source).expand =
      [printPair (Mnemonic.name Arith.and) ('$' :: target) ['$', '0'],
       printPair (Mnemonic.name Arith.or) ('$' :: target) ('$' :: source)] := by
  rw [expand, List.append_assoc, List.append_assoc, List.append_assoc]
  rfl

/-- The texts of an expansion are read as the instructions. -/
theorem parse_expand {p : Pseudo} {instructions : List Instruction} (means : p.Means instructions) :
    p.expand.map parse = instructions.map .ok := by
  have zero : Names ['0'] .zero := by decide
  cases means with
  | @loadWord digits r word named =>
    have high := parse_loadByte .liu named (word.toNat / 256) (by have := word.isLt; omega)
    have low := parse_loadByte .lil named (word.toNat % 256) (by omega)
    have pad := parse_arith .add zero zero
    rw [expand_loadWord, List.map_cons, List.map_cons, List.map_cons, high, low, pad]
    rfl
  | @move target source r s named filled =>
    have clear := parse_arith .and named zero
    have fill := parse_arith .or named filled
    rw [expand_move, List.map_cons, List.map_cons, clear, fill]
    rfl
  | loadHigh word =>
    have high := parse_hiLoByte .lhh (word.toNat / 256) (by have := word.isLt; omega)
    have low := parse_hiLoByte .lhl (word.toNat % 256) (by omega)
    exact List.cons_eq_cons.mpr ⟨high, congrArg (· :: []) low⟩
  | loadLow word =>
    have high := parse_hiLoByte .llh (word.toNat / 256) (by have := word.isLt; omega)
    have low := parse_hiLoByte .lll (word.toNat % 256) (by omega)
    exact List.cons_eq_cons.mpr ⟨high, congrArg (· :: []) low⟩

theorem encode_means {p : Pseudo} {instructions : List Instruction} (means : p.Means instructions)
    {ins : Instruction} (given : ins ∈ instructions) (address : Address) (symbols : SymbolTable) :
    ∃ bits, ins.encode address symbols = .ok bits := by
  have upper (word : Word) : word.toNat / 256 < 256 := by
    have := word.isLt
    omega
  have lower (word : Word) : word.toNat % 256 < 256 := Nat.mod_lt _ (by decide)
  cases means with
  | loadWord word named =>
    simp only [List.mem_cons, List.not_mem_nil, or_false] at given
    rcases given with rfl | rfl | rfl
    · exact ⟨_, Instruction.encode_loadByte _ _ (upper word) address symbols⟩
    · exact ⟨_, Instruction.encode_loadByte _ _ (lower word) address symbols⟩
    · exact ⟨_, rfl⟩
  | move named filled =>
    simp only [List.mem_cons, List.not_mem_nil, or_false] at given
    rcases given with rfl | rfl
    · exact ⟨_, rfl⟩
    · exact ⟨_, rfl⟩
  | loadHigh word | loadLow word =>
    simp only [List.mem_cons, List.not_mem_nil, or_false] at given
    rcases given with rfl | rfl
    · exact ⟨_, Instruction.encode_hiLoByte _ (upper word) address symbols⟩
    · exact ⟨_, Instruction.encode_hiLoByte _ (lower word) address symbols⟩

end Pseudo

end Anem
