import Anem.Mnemonic
import Anem.Operand
import Anem.Proofs.Lists
import Anem.Proofs.Literals

namespace Anem

open Text

/-- Text that can stand between two commas. -/
def Text.Piece (t : Text) : Prop := Solid t ∧ ',' ∉ t

instance (t : Text) : Decidable (Piece t) := inferInstanceAs (Decidable (Solid t ∧ ',' ∉ t))

theorem Text.Piece.append {s t : Text} (hs : Piece s) (ht : Piece t) : Piece (s ++ t) :=
  ⟨hs.1.append ht.1, by simp [hs.2, ht.2]⟩

theorem Text.piece_signedDecimal (v : Int) : Piece (signedDecimal v) := by
  exact ⟨solid_signedDecimal v, fun h => absurd (mem_signedDecimal h) (by decide)⟩

theorem Text.mem_of_isIdentifier {name : Text} (h : isIdentifier name = true) {c : Char}
    (hc : c ∈ name) : isNameChar c = true := by
  simp only [isIdentifier, Bool.and_eq_true] at h
  exact List.all_eq_true.mp h.2 c hc

theorem Text.not_mem_of_isIdentifier {name : Text} (identifier : isIdentifier name = true) {c : Char}
    (other : isNameChar c = false) : c ∉ name := by
  intro hc
  rw [mem_of_isIdentifier identifier hc] at other
  cases other

theorem Text.isBlank_of_isNameChar {c : Char} (h : isNameChar c = true) : isBlank c = false := by
  have visible : 0x20 < c.toNat ∧ c.toNat < 0x7F := by
    rcases Bool.or_eq_true_iff.mp h with alphanum | underscore
    · rcases Bool.or_eq_true_iff.mp alphanum with alpha | digit
      · rcases Bool.or_eq_true_iff.mp alpha with upper | lower
        · have bounds : 65 ≤ c.toNat ∧ c.toNat ≤ 90 := of_decide_eq_true upper
          omega
        · have bounds : 97 ≤ c.toNat ∧ c.toNat ≤ 122 :=
            (Bool.and_eq_true_iff.mp lower).imp of_decide_eq_true of_decide_eq_true
          omega
      · have bounds := toNat_of_isDigit digit
        omega
    · rw [beq_iff_eq.mp underscore]
      decide
  exact isBlank_of_visible visible.1 visible.2

theorem Text.piece_of_isIdentifier {name : Text} (h : isIdentifier name = true) : Piece name := by
  refine ⟨⟨?_, fun c hc => isBlank_of_isNameChar (mem_of_isIdentifier h hc)⟩, fun hc => ?_⟩
  · rintro rfl
    simp [isIdentifier] at h
  · exact absurd (mem_of_isIdentifier h hc) (by decide)

namespace Register

theorem readNumber?_print : ∀ r : Register, readNumber? r.print = some r.val := by
  decide

theorem piece_print : ∀ r : Register, Piece r.print := by
  decide

/-- A dollar sign and one or two decimal digits, with the number they make. -/
inductive Written : Text → Nat → Prop where
  | one {c : Char} (digit : c.isDigit = true) : Written ['$', c] (c.toNat - 0x30)
  | two {c d : Char} (tens : c.isDigit = true) (ones : d.isDigit = true) :
    Written ['$', c, d] ((c.toNat - 0x30) * 10 + (d.toNat - 0x30))

theorem readNumber?_eq_some {t : Text} {n : Nat} : readNumber? t = some n ↔ Written t n := by
  constructor
  · intro h
    unfold readNumber? at h
    split at h
    · rename_i digits
      split at h
      · rename_i short
        match digits, short with
        | [], _ => cases h
        | [c], _ =>
          have only : appendDigit? 10 0 c = some n := by simpa [readDigits?, readFrom?] using h
          obtain ⟨digit, rfl⟩ := appendDigit?_eq_some.mp only
          rw [Nat.zero_mul, Nat.zero_add]
          exact .one digit
        | [c, d], _ =>
          obtain ⟨m, first, second⟩ : ∃ m, appendDigit? 10 0 c = some m ∧
              appendDigit? 10 m d = some n := by
            simpa [readDigits?, readFrom?, Option.bind_eq_some_iff] using h
          obtain ⟨tens, rfl⟩ := appendDigit?_eq_some.mp first
          obtain ⟨ones, rfl⟩ := appendDigit?_eq_some.mp second
          rw [Nat.zero_mul, Nat.zero_add]
          exact .two tens ones
      · cases h
    · cases h
  · intro h
    cases h with
    | @one c digit =>
      have only : appendDigit? 10 0 c = some (c.toNat - 0x30) :=
        appendDigit?_eq_some.mpr ⟨digit, by omega⟩
      simp [readNumber?, readDigits?, readFrom?, only]
    | @two c d tens ones =>
      have first : appendDigit? 10 0 c = some (c.toNat - 0x30) :=
        appendDigit?_eq_some.mpr ⟨tens, by omega⟩
      have second : appendDigit? 10 (c.toNat - 0x30) d =
          some ((c.toNat - 0x30) * 10 + (d.toNat - 0x30)) :=
        appendDigit?_eq_some.mpr ⟨ones, rfl⟩
      simp [readNumber?, readDigits?, readFrom?, first, second]

/-- A register number has two digits at most. -/
theorem Written.lt {t : Text} {n : Nat} (h : Written t n) : n < 100 := by
  cases h with
  | one digit =>
    have := toNat_of_isDigit digit
    omega
  | two tens ones =>
    have := toNat_of_isDigit tens
    have := toNat_of_isDigit ones
    omega

theorem Written.length_eq {t : Text} {n : Nat} (h : Written t n) : t.length = 2 ∨ t.length = 3 := by
  cases h with
  | one digit => exact Or.inl rfl
  | two tens ones => exact Or.inr rfl

end Register

namespace Literal

/-- A literal holds letters and digits, and signs at most. -/
theorem not_mem_of_read? {style : Style} {t : Text} {v : Int} (h : read? style t = some v) {c : Char}
    (other : c.isAlphanum = false ∧ c ≠ '+' ∧ c ≠ '-') : c ∉ t := by
  obtain ⟨sign, body, rfl, signs, -, each⟩ := form_of_denote? (read?_eq_some.mp h).1
  intro hc
  rcases List.mem_append.mp hc with hc | hc
  · rcases signs with rfl | rfl | rfl
    · cases hc
    · exact other.2.1 (List.mem_singleton.mp hc)
    · exact other.2.2 (List.mem_singleton.mp hc)
  · exact absurd (each c hc).1 (by simp [other.1])

theorem solid_of_read? {style : Style} {t : Text} {v : Int} (h : read? style t = some v) : Solid t := by
  obtain ⟨sign, body, rfl, signs, present, each⟩ := form_of_denote? (read?_eq_some.mp h).1
  have solid : Solid body := by
    refine ⟨present, fun c hc => isBlank_of_isNameChar ?_⟩
    rw [isNameChar, (each c hc).1, Bool.true_or]
  rcases signs with rfl | rfl | rfl
  · exact solid
  · exact Solid.cons (by decide) solid
  · exact Solid.cons (by decide) solid

end Literal

namespace Part

/-- The mark of a part, in either case. -/
inductive Written : Text → Part → Prop where
  | whole : Written [] .whole
  | upper {c : Char} (mark : c = 'U' ∨ c = 'u') : Written [c] .upper
  | lower {c : Char} (mark : c = 'L' ∨ c = 'l') : Written [c] .lower

theorem read?_eq_some {t : Text} {part : Part} : read? t = some part ↔ Written t part := by
  constructor
  · intro h
    unfold read? at h
    split at h
    · cases h
      exact .whole
    · split at h
      · cases h
        exact .upper ‹_›
      · split at h
        · cases h
          exact .lower ‹_›
        · cases h
    · cases h
  · intro h
    cases h with
    | whole => rfl
    | upper mark =>
      rcases mark with rfl | rfl
      · rfl
      · rfl
    | lower mark =>
      rcases mark with rfl | rfl
      · rfl
      · rfl

end Part

namespace Immediate

/-- The immediates that a line can spell. -/
def Spelled : Immediate → Prop
  | literal value => Literal.InRange value
  | symbol name _ => isIdentifier name = true

theorem piece_print {i : Immediate} (h : i.Spelled) : Piece i.print := by
  cases i with
  | literal value => exact piece_signedDecimal value
  | symbol name part =>
    have tail : Piece ('%' :: part.print) := by cases part <;> decide
    exact ((by decide : Piece ['%']).append (piece_of_isIdentifier h)).append tail

/-- A literal, or a name between percent signs and the mark of a part. -/
inductive Written : Text → Immediate → Prop where
  | literal {t : Text} {v : Int} (denoted : Literal.read? .operand t = some v) :
    Written t (.literal v)
  | symbol {name mark : Text} {part : Part} (identifier : isIdentifier name = true)
    (marked : Part.Written mark part) : Written ('%' :: name ++ '%' :: mark) (.symbol name part)

theorem readSymbol?_eq_some {t name : Text} {part : Part} :
    readSymbol? t = some (name, part) ↔
      isIdentifier name = true ∧ ∃ mark, t = '%' :: name ++ '%' :: mark ∧ Part.Written mark part := by
  constructor
  · intro h
    unfold readSymbol? at h
    split at h
    · split at h
      · rename_i front mark cut
        split at h
        · rename_i identifier
          obtain ⟨_, found, ⟨rfl⟩⟩ := Option.map_eq_some_iff.mp h
          obtain ⟨-, rfl⟩ := cutAt?_eq_some.mp cut
          exact ⟨identifier, mark, rfl, Part.read?_eq_some.mp found⟩
        · cases h
      · cases h
    · cases h
  · rintro ⟨identifier, mark, rfl, marked⟩
    have plain : '%' ∉ name := fun hc => absurd (mem_of_isIdentifier identifier hc) (by decide)
    have cut : cutAt? '%' (name ++ '%' :: mark) = some (name, mark) :=
      cutAt?_eq_some.mpr ⟨plain, rfl⟩
    simp [readSymbol?, cut, identifier, Part.read?_eq_some.mpr marked]

theorem read?_eq_some {t : Text} {i : Immediate} : read? t = some i ↔ Written t i := by
  constructor
  · intro h
    unfold read? at h
    split at h
    · rename_i name part found
      obtain ⟨identifier, mark, rfl, marked⟩ := readSymbol?_eq_some.mp found
      cases h
      exact .symbol identifier marked
    · obtain ⟨v, denoted, rfl⟩ := Option.map_eq_some_iff.mp h
      exact .literal denoted
  · intro h
    cases h with
    | literal denoted =>
      have noSymbol : readSymbol? t = none := by
        rw [Option.eq_none_iff_forall_ne_some]
        rintro ⟨name, part⟩ found
        obtain ⟨-, mark, rfl, -⟩ := readSymbol?_eq_some.mp found
        exact Literal.not_mem_of_read? denoted (c := '%') (by decide) (by simp)
      simp only [read?, noSymbol, denoted, Option.map_some]
    | symbol identifier marked =>
      have found := readSymbol?_eq_some.mpr ⟨identifier, _, rfl, marked⟩
      simp only [read?, found]

theorem written_print {i : Immediate} (h : i.Spelled) : Written i.print i := by
  cases i with
  | literal value => exact .literal (Literal.read?_signedDecimal .operand h (Or.inl rfl))
  | symbol name part => exact .symbol h (Part.read?_eq_some.mp (Part.read?_print part))

theorem Written.spelled {t : Text} {i : Immediate} (h : Written t i) : i.Spelled := by
  cases h with
  | literal denoted => exact Literal.inRange_of_read? denoted
  | symbol identifier marked => exact identifier

/-- An immediate neither starts like a register nor ends like a memory operand. -/
theorem Written.ends {t : Text} {i : Immediate} (h : Written t i) :
    t.head? ≠ some '$' ∧ t.getLast? ≠ some ')' := by
  cases h with
  | literal denoted =>
    exact ⟨fun head => Literal.not_mem_of_read? denoted (by decide) (List.mem_of_head? head),
      fun last => Literal.not_mem_of_read? denoted (by decide) (List.mem_of_getLast? last)⟩
  | symbol identifier marked =>
    refine ⟨by simp, ?_⟩
    rw [List.getLast?_append]
    cases marked with
    | whole => simp
    | upper either =>
      rcases either with rfl | rfl <;> simp
    | lower either =>
      rcases either with rfl | rfl <;> simp

end Immediate

namespace Operand

/-- The operands that a line can spell. -/
def Spelled : Operand → Prop
  | register number => number < 100
  | immediate value => value.Spelled
  | memory offset _ => offset.Spelled
  | word text => isIdentifier text = true

theorem readMemory?_of_getLast? {t : Text} (h : t.getLast? ≠ some ')') : readMemory? t = none := by
  rw [readMemory?, if_neg h]

theorem read?_register : ∀ r : Register, read? r.print = some (register r.val) := by
  decide

theorem readNumber?_of_head {t : Text} (h : t.head? ≠ some '$') :
    Register.readNumber? t = none := by
  unfold Register.readNumber?
  split
  · simp at h
  · rfl

theorem read?_of_immediate {t : Text} {i : Immediate} (h : Immediate.Written t i) :
    read? t = some (immediate i) := by
  obtain ⟨head, last⟩ := h.ends
  simp [read?, readMemory?_of_getLast? last, readNumber?_of_head head,
    Immediate.read?_eq_some.mpr h]

theorem read?_immediate {i : Immediate} (h : i.Spelled) : read? i.print = some (immediate i) :=
  read?_of_immediate (Immediate.written_print h)

theorem read?_memory {offset : Int} (h : Literal.InRange offset) (r : Register) :
    read? (signedDecimal offset ++ '(' :: r.print ++ [')']) =
      some (memory (.literal offset) r.val) := by
  have plain : '(' ∉ signedDecimal offset := fun hc => absurd (mem_signedDecimal hc) (by decide)
  have cut : cutAt? '(' (signedDecimal offset ++ '(' :: r.print) =
      some (signedDecimal offset, r.print) := cutAt?_eq_some.mpr ⟨plain, rfl⟩
  have whole : Immediate.read? (signedDecimal offset) = some (.literal offset) :=
    Immediate.read?_eq_some.mpr (Immediate.written_print (i := .literal offset) h)
  have found : readMemory? (signedDecimal offset ++ '(' :: r.print ++ [')']) =
      some (memory (.literal offset) r.val) := by
    rw [readMemory?, if_pos List.getLast?_concat, List.dropLast_concat, cut]
    simp only [trim_solid (Register.piece_print r).1, Register.readNumber?_print,
      trim_solid (solid_signedDecimal offset), whole]
  rw [read?, found]
  rfl

theorem read?_predicate (p : Predicate) :
    read? (Mnemonic.name p) = some (word (Mnemonic.name p)) := by
  cases p <;> decide

/-- What a text is read as: its class is fixed by its spelling. -/
inductive Classed (t : Text) : Operand → Prop where
  | memory {offset : Immediate} {base : Nat} (found : readMemory? t = some (.memory offset base))
    (spelled : offset.Spelled) : Classed t (.memory offset base)
  | register {n : Nat} (written : Register.Written t n) : Classed t (.register n)
  | immediate {i : Immediate} (written : Immediate.Written t i) : Classed t (.immediate i)
  | word (identifier : isIdentifier t = true) : Classed t (.word t)

theorem classed_of_readMemory? {t : Text} {o : Operand} (h : readMemory? t = some o) :
    Classed t o := by
  have found := h
  unfold readMemory? at h
  split at h
  · split at h
    · split at h
      · rename_i offset
        cases h
        exact .memory found (Immediate.read?_eq_some.mp offset).spelled
      · cases h
    · cases h
  · cases h

theorem classed_of_read? {t : Text} {o : Operand} (h : read? t = some o) : Classed t o := by
  simp only [read?, Option.orElse_eq_orElse, Option.orElse_eq_or, Option.or_eq_some_iff,
    Option.map_eq_some_iff] at h
  rcases h with memory | ⟨-, ⟨n, number, rfl⟩ | ⟨-, ⟨i, value, rfl⟩ | ⟨-, text⟩⟩⟩
  · exact classed_of_readMemory? memory
  · exact .register (Register.readNumber?_eq_some.mp number)
  · exact .immediate (Immediate.read?_eq_some.mp value)
  · unfold readWord? at text
    split at text
    · cases text
      exact .word ‹_›
    · cases text

theorem spelled_of_read? {t : Text} {o : Operand} (h : read? t = some o) : o.Spelled := by
  cases classed_of_read? h with
  | memory found spelled => exact spelled
  | register written => exact written.lt
  | immediate written => exact written.spelled
  | word identifier => exact identifier

end Operand

namespace Register

/-- A register number is a dollar sign and decimal digits. -/
theorem digits_of_readNumber? {t : Text} {n : Nat} (h : readNumber? t = some n) :
    ∃ digits, t = '$' :: digits ∧ digits ≠ [] ∧ ∀ c ∈ digits, c.isDigit = true := by
  cases readNumber?_eq_some.mp h with
  | one digit => exact ⟨_, rfl, List.cons_ne_nil _ _, by simpa using digit⟩
  | two tens ones => exact ⟨_, rfl, List.cons_ne_nil _ _, by simpa using ⟨tens, ones⟩⟩

theorem piece_of_readNumber? {t : Text} {n : Nat} (h : readNumber? t = some n) : Piece t := by
  obtain ⟨digits, rfl, some_left, all⟩ := digits_of_readNumber? h
  refine ⟨Solid.cons (by decide) ⟨some_left, fun c hc => isBlank_of_isDigit (all c hc)⟩, ?_⟩
  intro comma
  rcases List.mem_cons.mp comma with same | comma
  · cases same
  · exact absurd (all ',' comma) (by decide)

theorem read?_of_readNumber? {t : Text} {n : Nat} (h : readNumber? t = some n) :
    Operand.read? t = some (.register n) := by
  obtain ⟨digits, rfl, some_left, all⟩ := digits_of_readNumber? h
  have noMemory : Operand.readMemory? ('$' :: digits) = none := by
    apply Operand.readMemory?_of_getLast?
    rw [List.getLast?_cons_of_ne_nil some_left]
    intro last
    exact absurd (all ')' (List.mem_of_getLast? last)) (by decide)
  simp [Operand.read?, noMemory, h]

end Register

namespace Phrase

theorem readOperands?_one {x : Text} (hx : Piece x) {o : Operand}
    (first : Operand.read? x = some o) : readOperands? (' ' :: x) = some [o] := by
  have body : trim (' ' :: x) = x :=
    (trim_blank_append [' '] (by decide) x).trans (trim_solid hx.1)
  have some_left : x.isEmpty = false := by simpa using hx.1.1
  simp [readOperands?, body, some_left, splitAt_of_not_mem hx.2, trim_solid hx.1, first]

/-- Two operands, with a gap of blanks after the comma or none. -/
theorem readOperands?_two {x y gap : Text} (hx : Piece x) (hy : Piece y)
    (blank : gap.all isBlank = true) (plain : ',' ∉ gap) {o p : Operand}
    (first : Operand.read? x = some o) (second : Operand.read? y = some p) :
    readOperands? (' ' :: x ++ ',' :: gap ++ y) = some [o, p] := by
  have body : trim (' ' :: x ++ ',' :: gap ++ y) = x ++ ',' :: gap ++ y := by
    have cut := trim_blank_append [' '] (by decide) (x ++ ',' :: gap ++ y)
    have ends := trim_between hx.1 (',' :: gap) hy.1
    simpa using cut.trans ends
  have pieces : splitAt ',' (x ++ ',' :: gap ++ y) = [x, gap ++ y] := by
    have tail : splitAt ',' (gap ++ y) = [gap ++ y] := splitAt_of_not_mem (by simp [plain, hy.2])
    rw [List.append_assoc, List.cons_append, splitAt_append hx.2, tail]
  have some_left : (x ++ ',' :: gap ++ y).isEmpty = false := by simp
  simp only [readOperands?, body, some_left, pieces]
  simp [trim_blank_append gap blank, trim_solid hx.1, trim_solid hy.1, first, second]

theorem read_word {m : Text} (hm : Solid m) : read m = .ok ⟨m, []⟩ := by
  have some_left : m.isEmpty = false := by simpa using hm.1
  have none_left : readOperands? [] = some [] := rfl
  simp [read, trim_solid hm, cutWord_solid hm, some_left, none_left]

/-- A mnemonic, a blank and text whose operands are known. -/
theorem read_operands {m last : Text} (hm : Solid m) (rest : Text) (hl : Solid last)
    {operands : List Operand} (found : readOperands? (' ' :: rest ++ last) = some operands) :
    read (m ++ ' ' :: rest ++ last) = .ok ⟨m, operands⟩ := by
  have some_left : m.isEmpty = false := by simpa using hm.1
  have cut : cutWord (m ++ ' ' :: rest ++ last) = (m, ' ' :: rest ++ last) := by
    rw [List.append_assoc]
    exact cutWord_solid_append hm (by decide) _
  simp only [read, trim_between hm (' ' :: rest) hl, cut, some_left, found]
  rfl

theorem read_one {m x : Text} (hm : Solid m) (hx : Piece x) {o : Operand}
    (first : Operand.read? x = some o) : read (m ++ ' ' :: x) = .ok ⟨m, [o]⟩ := by
  have found := readOperands?_one hx first
  have := read_operands hm [] hx.1 (by simpa using found)
  simpa using this

theorem read_two {m x y gap : Text} (hm : Solid m) (hx : Piece x) (hy : Piece y)
    (blank : gap.all isBlank = true) (plain : ',' ∉ gap) {o p : Operand}
    (first : Operand.read? x = some o) (second : Operand.read? y = some p) :
    read (m ++ ' ' :: x ++ ',' :: gap ++ y) = .ok ⟨m, [o, p]⟩ := by
  have found := readOperands?_two hx hy blank plain first second
  have := read_operands hm (x ++ ',' :: gap) hy.1 (by simpa using found)
  simpa using this

theorem spelled_of_read {line : Text} {phrase : Phrase} (h : read line = .ok phrase) :
    ∀ o ∈ phrase.operands, o.Spelled := by
  simp only [read] at h
  split at h
  · cases h
  · split at h
    · rename_i operands found
      cases h
      intro o ho
      unfold readOperands? at found
      simp only at found
      split at found
      · cases found
        cases ho
      · obtain ⟨piece, -, eq⟩ := mem_of_mapM found ho
        exact Operand.spelled_of_read? eq
    · cases h

end Phrase

end Anem
