import Anem.Proofs.Literals.Grammar
import Anem.Proofs.Pseudo
import Anem.Proofs.Statement.Wording

namespace Anem

open Text

theorem Word.pack_eq_or (opcode : Nat) {r n : Nat} (digit : r < 0x10) (small : n < 0x100) :
    pack opcode (r * 0x100 + n) = BitVec.ofNat 16 (opcode <<< 12 ||| r <<< 8 ||| n) := by
  have operands : r <<< 8 ||| n = r * 0x100 + n := by
    rw [← Nat.shiftLeft_add_eq_or_of_lt small, Nat.shiftLeft_eq]
  have below : r * 0x100 + n < 2 ^ 12 := by omega
  rw [pack, Nat.or_assoc, operands, ← Nat.shiftLeft_add_eq_or_of_lt below, Nat.shiftLeft_eq]

namespace Instruction

theorem encode_loadByte_or (op : LoadByte) (r : Register) {n : Nat} (small : n < 0x100)
    (address : Address) (symbols : SymbolTable) :
    (loadByte op r (.literal n)).encode address symbols =
      .ok (BitVec.ofNat 16 (Mnemonic.code op <<< 12 ||| r.val <<< 8 ||| n)) := by
  rw [encode_loadByte op r small, Word.pack_eq_or _ r.isLt small]

theorem encode_hiLoByte_or (op : HiLoByte) {n : Nat} (small : n < 0x100) (address : Address)
    (symbols : SymbolTable) :
    (hiLoByte op n).encode address symbols =
      .ok (BitVec.ofNat 16 (0xE <<< 12 ||| Mnemonic.code op <<< 8 ||| n)) := by
  have known : Mnemonic.code op < 0x10 := by cases op <;> decide
  rw [encode_hiLoByte op small, Word.pack_eq_or _ known small]

end Instruction

namespace Register

theorem Written.not_mem {t : Text} {n : Nat} (written : Written t n) {c : Char} (noMark : c ≠ '$')
    (noDigit : c.isDigit = false) : c ∉ t := by
  obtain ⟨digits, rfl, -, all⟩ := digits_of_readNumber? (readNumber?_eq_some.mpr written)
  intro hc
  rcases List.mem_cons.mp hc with rfl | hc
  · exact noMark rfl
  · rw [all c hc] at noDigit
    cases noDigit

theorem Written.compact {t : Text} {n : Nat} (written : Written t n) : Statement.Compact t :=
  Statement.compact_of_no_dash (piece_of_readNumber? (readNumber?_eq_some.mpr written)).1
    (written.not_mem (by decide) (by decide)) (written.not_mem (by decide) (by decide))

end Register

namespace Literal

theorem read?_of_written {style : Style} {t : Text} {v : Int} (written : Written style t v)
    (least : -0x10000 ≤ v) (most : v ≤ 0x10000) : read? style t = some v :=
  read?_iff_written.mpr ⟨written, inRange_of_small least most⟩

/-- A literal has a dash in front only. -/
theorem compact_of_read? {style : Style} {t : Text} {v : Int} (h : read? style t = some v) :
    Statement.Compact t := by
  have solid := solid_of_read? h
  have noColon : ':' ∉ t := not_mem_of_read? h (by decide)
  obtain ⟨sign, body, rfl, signs, present, each⟩ := form_of_denote? (read?_eq_some.mp h).1
  have noDash : '-' ∉ body := fun hc => absurd (each '-' hc).1 (by decide)
  rcases signs with rfl | rfl | rfl
  · exact Statement.compact_of_no_dash solid noColon noDash
  · exact Statement.compact_of_no_dash solid noColon (by simpa using noDash)
  · apply Statement.compact_of_solid solid noColon
    · rw [List.count_append, List.count_eq_zero.mpr noDash]
      exact Nat.le_refl 1
    · rw [List.getLast?_append_of_ne_nil _ present]
      exact fun hc => noDash (List.mem_of_getLast? hc)

end Literal

namespace Pseudo

/-- Two operands around a comma, which may have blanks on both sides. -/
inductive Paired : Text → Text → Text → Prop where
  | mk {x y before after : Text} (left : before.all isBlank = true)
    (right : after.all isBlank = true) : Paired (x ++ (before ++ ',' :: (after ++ y))) x y

/-- The body of a line, with the instructions that it asks for and their words. -/
inductive Asks : Text → List (Instruction × Word) → Prop where
  | nop : Asks "NOP".toList [(.arith .add .zero .zero, 0x0002)]
  | liw {gap operands register literal : Text} {r : Register} {v : Int} {high low : Nat}
    (spaced : Gap gap) (paired : Paired operands register literal)
    (numbered : Register.Written register r.val) (written : Literal.Written .constant literal v)
    (least : -0x8000 ≤ v) (most : v ≤ 0xFFFF) (upper : high < 0x100) (lower : low < 0x100)
    (bytes : (high * 0x100 + low : Int) = v % 0x10000) :
    Asks ("LIW".toList ++ (gap ++ operands))
      [(.loadByte .liu r (.literal high), BitVec.ofNat 16 (0xC000 ||| r.val <<< 8 ||| high)),
       (.loadByte .lil r (.literal low), BitVec.ofNat 16 (0xD000 ||| r.val <<< 8 ||| low)),
       (.arith .add .zero .zero, 0x0002)]
  | move {gap operands target source : Text} {d s : Register} (spaced : Gap gap)
    (paired : Paired operands target source) (first : Register.Written target d.val)
    (second : Register.Written source s.val) :
    Asks ("MOVE".toList ++ (gap ++ operands))
      [(.arith .and d .zero, BitVec.ofNat 16 (d.val <<< 8)),
       (.arith .or d s, BitVec.ofNat 16 (d.val <<< 8 ||| s.val <<< 4 ||| 1))]
  | lhi {gap literal : Text} {v : Int} {high low : Nat} (spaced : Gap gap)
    (written : Literal.Written .address literal v) (upper : high < 0x100) (lower : low < 0x100)
    (bytes : (high * 0x100 + low : Int) = v) :
    Asks ("LHI".toList ++ (gap ++ literal))
      [(.hiLoByte .lhh high, BitVec.ofNat 16 (0xE100 ||| high)),
       (.hiLoByte .lhl low, BitVec.ofNat 16 (0xE000 ||| low))]
  | llo {gap literal : Text} {v : Int} {high low : Nat} (spaced : Gap gap)
    (written : Literal.Written .address literal v) (upper : high < 0x100) (lower : low < 0x100)
    (bytes : (high * 0x100 + low : Int) = v) :
    Asks ("LLO".toList ++ (gap ++ literal))
      [(.hiLoByte .llh high, BitVec.ofNat 16 (0xE300 ||| high)),
       (.hiLoByte .lll low, BitVec.ofNat 16 (0xE200 ||| low))]

section Spaced

variable {word gap : Text} (solid : Solid word) (spaced : Gap gap) (rest : Text)

include solid spaced

theorem cutWord_spaced : cutWord (word ++ (gap ++ rest)) = (word, gap ++ rest) := by
  obtain ⟨present, blank⟩ := spaced
  obtain ⟨c, more, rfl⟩ := List.exists_cons_of_ne_nil present
  exact cutWord_solid_append solid (List.all_eq_true.mp blank c List.mem_cons_self) _

theorem firstWord_spaced : firstWord (word ++ (gap ++ rest)) = word := by
  rw [firstWord, trimStart_solid_append solid, cutWord_spaced solid spaced]

end Spaced

/-- The operands around a comma are read apart. -/
theorem readPair?_of_paired {gap operands x y : Text} (spaced : Gap gap)
    (paired : Paired operands x y) (first : Piece x) (second : Solid y) :
    readPair? (gap ++ operands) = some (x, y) := by
  cases paired with
  | @mk _ _ before after left right =>
    have cut : cutAt? ',' (gap ++ (x ++ (before ++ ',' :: (after ++ y)))) =
        some (gap ++ x ++ before, after ++ y) := by
      refine cutAt?_eq_some.mpr ⟨?_, by simp⟩
      simp only [List.mem_append, not_or]
      exact ⟨⟨not_mem_of_blank spaced.2 (by decide), first.2⟩, not_mem_of_blank left (by decide)⟩
    have operand : trim (after ++ y) = y := (trim_blank_append after right y).trans (trim_solid second)
    rw [readPair?, cut, Option.map_some, trim_padded first.1 spaced.2 left, operand]

theorem readRegister?_of_names {digits : Text} {r : Register} (named : Names digits r) :
    readRegister? ('$' :: digits) = some digits := by
  obtain ⟨_, ⟨rfl⟩, -, all⟩ := Register.digits_of_readNumber? named
  have counted : digits.length = 1 ∨ digits.length = 2 := by
    have length := (Register.readNumber?_eq_some.mp named).length_eq
    rw [List.length_cons] at length
    omega
  have decimal : digits.all isDecimalDigit = true :=
    List.all_eq_true.mpr fun c hc => isDecimalDigit_of_isDigit (all c hc)
  rw [readRegister?, if_pos ⟨counted, decimal⟩]

/-- A written register number is a dollar sign and the digits that name it. -/
theorem names_of_written {t : Text} {r : Register} (written : Register.Written t r.val) :
    ∃ digits, t = '$' :: digits ∧ Names digits r := by
  have read := Register.readNumber?_eq_some.mpr written
  obtain ⟨digits, rfl, -, -⟩ := Register.digits_of_readNumber? read
  exact ⟨digits, rfl, read⟩

/-- A load of a word, with any spacing. -/
theorem read_liw {gap operands digits literal : Text} {r : Register} {v : Int} (spaced : Gap gap)
    (paired : Paired operands ('$' :: digits) literal) (named : Names digits r)
    (denoted : Literal.read? .constant literal = some v) :
    read .liw ("LIW".toList ++ (gap ++ operands)) = (toWord (-0x8000) v).map (loadWord digits) := by
  have pair := readPair?_of_paired spaced paired (Register.piece_of_readNumber? named)
    (Literal.solid_of_read? denoted)
  simp only [read, cutWord_spaced (by decide : Solid "LIW".toList) spaced, pair,
    readRegister?_of_names named, denoted]

theorem read_move {gap operands first second : Text} {d s : Register} (spaced : Gap gap)
    (paired : Paired operands ('$' :: first) ('$' :: second)) (target : Names first d)
    (source : Names second s) :
    read .move ("MOVE".toList ++ (gap ++ operands)) = .ok (move first second) := by
  have pair := readPair?_of_paired spaced paired (Register.piece_of_readNumber? target)
    (Register.piece_of_readNumber? source).1
  simp only [read, cutWord_spaced (by decide : Solid "MOVE".toList) spaced, pair,
    readRegister?_of_names target, readRegister?_of_names source]

/-- A word for one half of the pair, with any spacing. -/
theorem read_half {gap literal : Text} {v : Int} (spaced : Gap gap)
    (written : Literal.Written .address literal v) (least : 0 ≤ v) (most : v ≤ 0xFFFF) :
    read .lhi ("LHI".toList ++ (gap ++ literal)) = .ok (loadHigh (BitVec.ofInt 16 v)) ∧
      read .llo ("LLO".toList ++ (gap ++ literal)) = .ok (loadLow (BitVec.ofInt 16 v)) := by
  have denoted := Literal.read?_of_written written (by omega) (by omega)
  have operand : trim (gap ++ literal) = literal :=
    (trim_blank_append gap spaced.2 literal).trans (trim_solid (Literal.solid_of_read? denoted))
  have word : toWord 0 v = .ok (BitVec.ofInt 16 v) := if_neg (by omega)
  constructor
  · simp only [read, cutWord_spaced (by decide : Solid "LHI".toList) spaced, operand, denoted, word]
    rfl
  · simp only [read, cutWord_spaced (by decide : Solid "LLO".toList) spaced, operand, denoted, word]
    rfl

/-- The two bytes of a word. -/
theorem bytes_of_ofInt {v : Int} {high low : Nat} (lower : low < 0x100)
    (bytes : (high * 0x100 + low : Int) = v % 0x10000) :
    (BitVec.ofInt 16 v).toNat / 256 = high ∧ (BitVec.ofInt 16 v).toNat % 256 = low := by
  rw [BitVec.toNat_ofInt]
  omega

theorem compact_spaced {word gap operands : Text} (solid : Solid word) (noDash : '-' ∉ word)
    (noColon : ':' ∉ word) (spaced : Gap gap) (compact : Statement.Compact operands) :
    Statement.Compact (word ++ (gap ++ operands)) := by
  apply compact.behind solid
  · rw [List.mem_append, not_or]
    exact ⟨noDash, not_mem_of_blank spaced.2 (by decide)⟩
  · rw [List.mem_append, not_or]
    exact ⟨noColon, not_mem_of_blank spaced.2 (by decide)⟩

theorem Paired.compact {operands x y : Text} {n : Nat} (paired : Paired operands x y)
    (written : Register.Written x n) (compact : Statement.Compact y) :
    Statement.Compact operands := by
  cases paired with
  | @mk _ _ before after left right =>
    have apart {c : Char} (visible : isBlank c = false) (other : c ≠ ',') (own : c ∉ x) :
        c ∉ x ++ (before ++ ',' :: after) := by
      simp only [List.mem_append, List.mem_cons, not_or]
      exact ⟨own, not_mem_of_blank left visible, other, not_mem_of_blank right visible⟩
    have noDash := apart (by decide) (by decide) (written.not_mem (c := '-') (by decide) rfl)
    have noColon := apart (by decide) (by decide) (written.not_mem (c := ':') (by decide) rfl)
    have solid := (Register.piece_of_readNumber? (Register.readNumber?_eq_some.mpr written)).1
    have whole := compact.behind solid noDash noColon
    rw [List.append_assoc, List.cons_append] at whole
    exact whole

section Asks

variable {body : Text} {steps : List (Instruction × Word)} (asks : Asks body steps)

include asks

theorem Asks.compact : Statement.Compact body := by
  cases asks with
  | nop => exact Statement.compact_of_no_dash (by decide) (by decide) (by decide)
  | liw spaced paired numbered written least most =>
    have denoted := Literal.read?_of_written written (by omega) (by omega)
    have operands := paired.compact numbered (Literal.compact_of_read? denoted)
    exact compact_spaced (by decide) (by decide) (by decide) spaced operands
  | move spaced paired first second =>
    have operands := paired.compact first second.compact
    exact compact_spaced (by decide) (by decide) (by decide) spaced operands
  | lhi spaced written | llo spaced written =>
    have denoted := Literal.read?_of_written written (by omega) (by omega)
    exact compact_spaced (by decide) (by decide) (by decide) spaced
      (Literal.compact_of_read? denoted)

/-- What is asked for has a name alone, or is read as the pseudo-instruction that
stands for the instructions. -/
theorem Asks.read : (body = "NOP".toList ∧ steps.map Prod.fst = [.arith .add .zero .zero]) ∨
    ∃ kind pseudo, Kind.ofName? (firstWord body) = some kind ∧
      Pseudo.read kind body = .ok pseudo ∧ pseudo.Means (steps.map Prod.fst) := by
  cases asks with
  | nop => exact Or.inl ⟨rfl, rfl⟩
  | @liw gap operands register literal r v high low spaced paired numbered written least most upper
      lower bytes =>
    obtain ⟨digits, rfl, named⟩ := names_of_written numbered
    have denoted := Literal.read?_of_written written (by omega) (by omega)
    have word : toWord (-0x8000) v = .ok (BitVec.ofInt 16 v) := if_neg (by omega)
    obtain ⟨first, second⟩ := bytes_of_ofInt lower bytes
    refine Or.inr ⟨.liw, .loadWord digits (BitVec.ofInt 16 v), ?_, ?_, ?_⟩
    · rw [firstWord_spaced (by decide) spaced]
      rfl
    · rw [read_liw spaced paired named denoted, word]
      rfl
    · have means := Means.loadWord (BitVec.ofInt 16 v) named
      rw [first, second] at means
      exact means
  | @move gap operands target source d s spaced paired first second =>
    obtain ⟨digits, rfl, named⟩ := names_of_written first
    obtain ⟨others, rfl, filled⟩ := names_of_written second
    refine Or.inr ⟨.move, .move digits others, ?_, read_move spaced paired named filled,
      .move named filled⟩
    rw [firstWord_spaced (by decide) spaced]
    rfl
  | @lhi gap literal v high low spaced written upper lower bytes =>
    obtain ⟨found, -⟩ := read_half spaced written (by omega) (by omega)
    have word : (high * 0x100 + low : Int) = v % 0x10000 := by omega
    obtain ⟨first, second⟩ := bytes_of_ofInt lower word
    refine Or.inr ⟨.lhi, _, ?_, found, ?_⟩
    · rw [firstWord_spaced (by decide) spaced]
      rfl
    · have means := Means.loadHigh (BitVec.ofInt 16 v)
      rw [first, second] at means
      exact means
  | @llo gap literal v high low spaced written upper lower bytes =>
    obtain ⟨-, found⟩ := read_half spaced written (by omega) (by omega)
    have word : (high * 0x100 + low : Int) = v % 0x10000 := by omega
    obtain ⟨first, second⟩ := bytes_of_ofInt lower word
    refine Or.inr ⟨.llo, _, ?_, found, ?_⟩
    · rw [firstWord_spaced (by decide) spaced]
      rfl
    · have means := Means.loadLow (BitVec.ofInt 16 v)
      rw [first, second] at means
      exact means

/-- Each instruction has its word, wherever it stands and whatever is defined. -/
theorem Asks.encode : ∀ step ∈ steps, ∀ address symbols,
    step.1.encode address symbols = .ok step.2 := by
  cases asks with
  | nop =>
    simp only [List.forall_mem_cons, List.not_mem_nil, false_imp_iff, implies_true, and_true]
    exact fun _ _ => rfl
  | liw spaced paired numbered written least most upper lower =>
    simp only [List.forall_mem_cons, List.not_mem_nil, false_imp_iff, implies_true, and_true]
    exact ⟨Instruction.encode_loadByte_or .liu _ upper, Instruction.encode_loadByte_or .lil _ lower,
      fun _ _ => rfl⟩
  | @move gap operands target source d s =>
    have arith (op : Arith) (r s : Register) (a : Address) (symbols : SymbolTable) :
        (Instruction.arith op r s).encode a symbols =
          .ok (Word.pack 0 (r * 0x100 + s * 0x10 + Mnemonic.code op)) := rfl
    have clear : ∀ d : Register, Word.pack 0 (d * 0x100 + Register.zero * 0x10 +
        Mnemonic.code Arith.and) = BitVec.ofNat 16 (d.val <<< 8) := by decide +kernel
    have fill : ∀ d s : Register, Word.pack 0 (d * 0x100 + s * 0x10 + Mnemonic.code Arith.or) =
        BitVec.ofNat 16 (d.val <<< 8 ||| s.val <<< 4 ||| 1) := by decide +kernel
    simp only [List.forall_mem_cons, List.not_mem_nil, false_imp_iff, implies_true, and_true, arith,
      clear, fill]
  | lhi spaced written upper lower =>
    simp only [List.forall_mem_cons, List.not_mem_nil, false_imp_iff, implies_true, and_true]
    exact ⟨Instruction.encode_hiLoByte_or .lhh upper, Instruction.encode_hiLoByte_or .lhl lower⟩
  | llo spaced written upper lower =>
    simp only [List.forall_mem_cons, List.not_mem_nil, false_imp_iff, implies_true, and_true]
    exact ⟨Instruction.encode_hiLoByte_or .llh upper, Instruction.encode_hiLoByte_or .lll lower⟩

end Asks

end Pseudo

end Anem
