import Anem.Image
import Anem.Proofs.Pseudo.Wording
import Anem.Proofs.Statement.Settled

namespace Anem

open Text

namespace Literal

/-- A literal in upper case needs no cleaning. -/
theorem tidy_of_read? {style : Style} (upper : style.anyCase = false) {t : Text} {v : Int}
    (h : read? style t = some v) : Statement.Tidy t := by
  obtain ⟨sign, body, rfl, signs, -, each⟩ := form_of_denote? (read?_eq_some.mp h).1
  have printed : ∀ c ∈ body, isPrinted c = true ∧ c ≠ '-' := by
    intro c hc
    obtain ⟨alphanum, case⟩ := each c hc
    have raised : c.isLower = false := case.resolve_left (by simp [upper])
    constructor
    · rw [isAlphanum_eq, raised, Bool.or_false] at alphanum
      rw [isPrinted, alphanum, Bool.true_or]
    · rintro rfl
      exact absurd alphanum (by decide)
  have plain : Numbered body := fun c hc => Or.inl (printed c hc)
  rcases signs with rfl | rfl | rfl
  · exact plain.tidy
  · have plus : Statement.Tidy ['+'] := Statement.tidy_singleton rfl (by decide) (by decide)
    exact plus.append plain.tidy (by decide)
  · have all : body.all isPrinted = true := List.all_eq_true.mpr fun c hc => (printed c hc).1
    have none : body.count '-' = 0 := List.count_eq_zero.mpr fun hc => (printed '-' hc).2 rfl
    have minus : Printed 1 ('-' :: body) :=
      Printed.append (s := ['-']) (by decide) ⟨all, Nat.le_of_eq none⟩
    exact Statement.tidy_of_printed minus

end Literal

namespace Pseudo

def loadLine (digits literal : Text) : Text :=
  Instruction.printPair "LIW".toList ('$' :: digits) literal

theorem read_loadLine {digits literal : Text} {r : Register} {v : Int} (named : Names digits r)
    (denoted : Literal.read? .constant literal = some v) :
    read .liw (loadLine digits literal) = (toWord (-0x8000) v).map (loadWord digits) := by
  have spaced : Gap [' '] := by simp [Gap, (by decide : isBlank ' ' = true)]
  have paired : Paired ('$' :: digits ++ ([] ++ ',' :: ([' '] ++ literal))) ('$' :: digits) literal :=
    .mk rfl spaced.2
  have shape : loadLine digits literal =
      "LIW".toList ++ ([' '] ++ ('$' :: digits ++ ([] ++ ',' :: ([' '] ++ literal)))) := by
    simp [loadLine, Instruction.printPair]
  rw [shape, read_liw spaced paired named denoted]

end Pseudo

namespace Statement

/-- An unlabelled pseudo-instruction comes to its expansion. -/
theorem ofLine_pseudo {t : Text} (tidy : Tidy t) (trimmed : trim t = t) (bare : ':' ∉ t)
    {kind : Pseudo.Kind} (named : Pseudo.Kind.ofName? (firstWord t) = some kind) (n : Nat) :
    ofLine ⟨n, t⟩ = expansion n kind t := by
  have present : t.isEmpty = false := by
    apply List.isEmpty_eq_false_iff.mpr
    rintro rfl
    cases named
  simp only [ofLine, clean_of_tidy tidy trimmed, present, splitLabel_of_not_mem bare, named,
    labelAlone, Traced.silent_andThen, List.nil_append, Bool.false_eq_true, if_false]

theorem ofLine_loadLine {digits literal : Text} {r : Register} {v : Int}
    (named : Pseudo.Names digits r) (denoted : Literal.read? .constant literal = some v) (n : Nat) :
    ofLine ⟨n, Pseudo.loadLine digits literal⟩ =
      match Pseudo.toWord (-0x8000) v with
      | .ok word => .silent ((Pseudo.loadWord digits word).expand.map fun text => ⟨n, none, text⟩)
      | .error cause => ⟨[], #[.error n cause]⟩ := by
  have tidyLiteral := Literal.tidy_of_read? rfl denoted
  have solid := Literal.solid_of_read? denoted
  have noColon : ':' ∉ literal := Literal.not_mem_of_read? denoted (by decide)
  obtain ⟨_, ⟨rfl⟩, present, all⟩ := Register.digits_of_readNumber? named
  have front : Printed 0 ("LIW".toList ++ ' ' :: '$' :: digits ++ [',', ' ']) :=
    ((by decide : Printed 0 "LIW $".toList).append (printed_of_digits all)).append
      (by decide : Printed 0 [',', ' '])
  have shape : Pseudo.loadLine digits literal =
      ("LIW".toList ++ ' ' :: '$' :: digits ++ [',', ' ']) ++ literal := by
    simp [Pseudo.loadLine, Instruction.printPair]
  have tidy : Tidy (Pseudo.loadLine digits literal) := by
    rw [shape]
    have gap : ("LIW".toList ++ ' ' :: '$' :: digits ++ [',', ' ']).getLast? ≠ some '-' := by
      rw [List.getLast?_append]
      simp
    exact (tidy_of_printed (front.mono (Nat.zero_le 1))).append tidyLiteral gap
  have trimmed : trim (Pseudo.loadLine digits literal) = Pseudo.loadLine digits literal := by
    rw [shape, List.append_assoc, List.append_assoc]
    have ends := trim_between (by decide : Solid "LIW".toList) (' ' :: '$' :: digits ++ [',', ' ']) solid
    simpa using ends
  have bare : ':' ∉ Pseudo.loadLine digits literal := by
    rw [shape, List.mem_append, not_or]
    exact ⟨front.not_mem (by decide), noColon⟩
  have word : firstWord (Pseudo.loadLine digits literal) = "LIW".toList := by
    have liw : Solid "LIW".toList := by decide
    rw [shape, firstWord, List.append_assoc, List.append_assoc, trimStart_solid_append liw,
      List.cons_append, cutWord_solid_append liw (by decide)]
  have liw : Pseudo.Kind.ofName? (firstWord (Pseudo.loadLine digits literal)) = some .liw := by
    rw [word]
    rfl
  rw [ofLine_pseudo tidy trimmed bare liw, expansion, Pseudo.read_loadLine named denoted]
  cases Pseudo.toWord (-0x8000) v with
  | ok value => rfl
  | error cause => rfl

end Statement

namespace Instruction

open Mnemonic (code)

theorem encode_symbol {symbols : SymbolTable} {name : Text} {v : Int}
    (bound : symbols.get? name = some v) (op : LoadByte) (r : Register) (part : Part)
    (address : Address) :
    (loadByte op r (.symbol name part)).encode address symbols =
      (Field.byte (part.take v)).map fun f => Word.pack (code op) (r * 0x100 + f) := by
  have resolved : symbols.resolve name = .ok v := SymbolTable.resolve_eq_ok.mpr bound
  simp only [encode, operandField, Immediate.resolve, resolved, Except.map, bind, Except.bind]
  cases Field.byte (part.take v) with
  | ok f => rfl
  | error cause => rfl

theorem encode_lower {symbols : SymbolTable} {name : Text} {v : Int}
    (bound : symbols.get? name = some v) (op : LoadByte) (r : Register) (address : Address) :
    (loadByte op r (.symbol name .lower)).encode address symbols =
      .ok (Word.pack (code op) (r * 0x100 + (v % 0x100).toNat)) := by
  have fits : Field.byte (Part.lower.take v) = .ok (v % 0x100).toNat := by
    rw [Part.take, Int.fmod_eq_emod_of_nonneg v (by decide)]
    exact Field.byte_eq_ok.mpr (by omega)
  rw [encode_symbol bound, fits]
  rfl

/-- The upper half fits if the value is that of a word. -/
theorem encode_upper {symbols : SymbolTable} {name : Text} {v : Int}
    (bound : symbols.get? name = some v) (op : LoadByte) (r : Register) (address : Address) :
    (loadByte op r (.symbol name .upper)).encode address symbols =
      if -0x8000 ≤ v ∧ v ≤ 0xFFFF then
        .ok (Word.pack (code op) (r * 0x100 + (v / 0x100 % 0x100).toNat))
      else .error (.fieldRange (v / 0x100) 8) := by
  rw [encode_symbol bound, Part.take, Int.fdiv_eq_ediv_of_nonneg v (by decide), Field.byte]
  split
  · rw [if_neg (by omega)]
    rfl
  · rw [if_pos (by omega)]
    rfl

theorem byte_of_load (op : LoadByte) (r : Register) {f : Nat} (small : f < 0x100) :
    (Word.pack (code op) (r * 0x100 + f)).byte = f := by
  have known : code op < 16 := by cases op <;> decide
  exact (Word.byte_pack known r.isLt small).2.2

end Instruction

namespace Pseudo

/-- The instructions of a word spell its bytes. -/
theorem expand_ofInt (digits : Text) (v : Int) :
    (loadWord digits (BitVec.ofInt 16 v)).expand =
      [Instruction.printPair (Mnemonic.name LoadByte.liu) ('$' :: digits)
         (decimal (v / 0x100 % 0x100).toNat),
       Instruction.printPair (Mnemonic.name LoadByte.lil) ('$' :: digits) (decimal (v % 0x100).toNat),
       noOperation] := by
  have high : (BitVec.ofInt 16 v).toNat / 0x100 = (v / 0x100 % 0x100).toNat := by
    rw [BitVec.toNat_ofInt]
    omega
  have low : (BitVec.ofInt 16 v).toNat % 0x100 = (v % 0x100).toNat := by
    rw [BitVec.toNat_ofInt]
    omega
  rw [expand_loadWord, high, low]
  rfl

/-- An instruction of an expansion has its word wherever it lies. -/
theorem encode_byteText (op : LoadByte) {digits : Text} {r : Register} (named : Names digits r)
    {f : Nat} (small : f < 0x100) (a : Address) (n : Nat) (symbols : SymbolTable) :
    Item.encode symbols
        ⟨a, n, Instruction.printPair (Mnemonic.name op) ('$' :: digits) (decimal f)⟩ =
      .ok (Word.pack (Mnemonic.code op) (r * 0x100 + f)) := by
  rw [Item.encode, parse_loadByte op named f small]
  exact Instruction.encode_loadByte op r small a symbols

end Pseudo

namespace Statement

open Instruction (parse printPair)

/-- **Loading a word at once and by halves agree.** Take a line that loads the
number `v` into a register, and a symbol with the value `v`. If `v` is the number
of a word, with or without a sign, the line stands for two instructions with the
words of the symbol's halves, and for a pause; the bytes of the two make up `v`.
Otherwise the line is refused, and so is the upper half. The lower half always
has a word. -/
theorem load_word_by_halves {digits literal name : Text} {r : Register} {v : Int}
    {symbols : SymbolTable} (named : Pseudo.Names digits r)
    (denoted : Literal.read? .constant literal = some v) (bound : symbols.get? name = some v)
    (n : Nat) :
    let line := ofLine ⟨n, printPair "LIW".toList ('$' :: digits) literal⟩
    let upper := Instruction.loadByte .liu r (.symbol name .upper)
    let lower := Instruction.loadByte .lil r (.symbol name .lower)
    (isIdentifier name = true →
      parse (printPair "LIU".toList ('$' :: digits) ('%' :: name ++ ['%', 'U'])) = .ok upper ∧
      parse (printPair "LIL".toList ('$' :: digits) ('%' :: name ++ ['%', 'L'])) = .ok lower) ∧
    (∀ a, ∃ w, lower.encode a symbols = .ok w) ∧
    (-0x8000 ≤ v ∧ v ≤ 0xFFFF → ∃ first second high low,
      line = .silent [⟨n, none, first⟩, ⟨n, none, second⟩, ⟨n, none, noOperation⟩] ∧
      (∀ a, Item.encode symbols ⟨a, n, first⟩ = .ok high ∧ upper.encode a symbols = .ok high) ∧
      (∀ a, Item.encode symbols ⟨a, n, second⟩ = .ok low ∧ lower.encode a symbols = .ok low) ∧
      ((high.byte * 0x100 + low.byte : Nat) : Int) = v % 0x10000) ∧
    (¬ (-0x8000 ≤ v ∧ v ≤ 0xFFFF) →
      line = ⟨[], #[.error n (.fieldRange v 16)]⟩ ∧
      ∀ a, ∃ part, upper.encode a symbols = .error (.fieldRange part 8)) := by
  intro line upper lower
  have whole : line = _ := ofLine_loadLine named denoted n
  refine ⟨?_, ?_, ?_, ?_⟩
  · intro identifier
    exact ⟨Pseudo.parse_immediate .liu named (i := .symbol name .upper) identifier,
      Pseudo.parse_immediate .lil named (i := .symbol name .lower) identifier⟩
  · intro a
    exact ⟨_, Instruction.encode_lower bound .lil r a⟩
  · intro fits
    have word : Pseudo.toWord (-0x8000) v = .ok (BitVec.ofInt 16 v) := by
      rw [Pseudo.toWord, if_neg (by omega)]
    have upperFits : (v / 0x100 % 0x100).toNat < 0x100 := by omega
    have lowerFits : (v % 0x100).toNat < 0x100 := by omega
    simp only [word, Pseudo.expand_ofInt] at whole
    refine ⟨_, _, Word.pack (Mnemonic.code LoadByte.liu) (r * 0x100 + (v / 0x100 % 0x100).toNat),
      Word.pack (Mnemonic.code LoadByte.lil) (r * 0x100 + (v % 0x100).toNat), whole, ?_, ?_, ?_⟩
    · intro a
      have symbolic := Instruction.encode_upper bound .liu r a
      rw [if_pos fits] at symbolic
      exact ⟨Pseudo.encode_byteText .liu named upperFits a n symbols, symbolic⟩
    · intro a
      exact ⟨Pseudo.encode_byteText .lil named lowerFits a n symbols,
        Instruction.encode_lower bound .lil r a⟩
    · rw [Instruction.byte_of_load .liu r upperFits, Instruction.byte_of_load .lil r lowerFits]
      omega
  · intro far
    have refused : Pseudo.toWord (-0x8000) v = .error (.fieldRange v 16) := by
      rw [Pseudo.toWord, if_pos (by omega)]
    rw [refused] at whole
    refine ⟨whole, ?_⟩
    intro a
    refine ⟨v / 0x100, ?_⟩
    rw [Instruction.encode_upper bound, if_neg far]

/-- A negative number of a word, and the first number above all of them. -/
theorem load_word_by_halves_limits :
    (∃ first second, ∃ high low : Word,
      ofLine ⟨7, "LIW $9, -2".toList⟩ =
        .silent [⟨7, none, first⟩, ⟨7, none, second⟩, ⟨7, none, noOperation⟩] ∧
      Item.encode (SymbolTable.empty.insert ['S'] (-2)) ⟨4, 7, first⟩ = .ok high ∧
      (Instruction.loadByte .liu 9 (.symbol ['S'] .upper)).encode 4
        (SymbolTable.empty.insert ['S'] (-2)) = .ok high ∧
      ((high.byte * 0x100 + low.byte : Nat) : Int) = 0xFFFE) ∧
    ofLine ⟨8, "LIW $09, 0X10000".toList⟩ = ⟨[], #[.error 8 (.fieldRange 0x10000 16)]⟩ := by
  have nine : Pseudo.Names ['9'] 9 := by decide
  have also : Pseudo.Names ['0', '9'] 9 := by decide
  have negative : Literal.read? .constant "-2".toList = some (-2) := by decide
  have large : Literal.read? .constant "0X10000".toList = some 0x10000 := by decide
  have small : (SymbolTable.empty.insert ['S'] (-2)).get? ['S'] = some (-2) := rfl
  have beyond : (SymbolTable.empty.insert ['S'] 0x10000).get? ['S'] = some 0x10000 := rfl
  obtain ⟨-, -, fits, -⟩ := load_word_by_halves nine negative small 7
  obtain ⟨-, -, -, refused⟩ := load_word_by_halves also large beyond 8
  obtain ⟨first, second, high, low, line, upper, -, bytes⟩ := fits (by decide)
  exact ⟨⟨first, second, high, low, line, (upper 4).1, (upper 4).2, bytes⟩, (refused (by decide)).1⟩

end Statement

end Anem
