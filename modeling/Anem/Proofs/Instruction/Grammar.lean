import Anem.Proofs.Instruction.Spelling
import Anem.Proofs.Text.Trim

/-!
The grammar of instruction lines. `Phrase.Written` says how a line falls into a
mnemonic and operands, and `Operation.Written` which operands each mnemonic takes
and what they stand for. A line is read as an instruction exactly if the grammar
derives it.
-/
namespace Anem

open Text

namespace Operand

/-- A literal and a register number in parentheses, with blanks inside the
parentheses and before them. -/
inductive MemoryWritten : Text → Int → Nat → Prop where
  | mk {literal base gap before after : Text} {offset : Int} {n : Nat}
    (denoted : Literal.read? .operand literal = some offset) (numbered : Register.Written base n)
    (outside : gap.all isBlank = true) (front : before.all isBlank = true)
    (back : after.all isBlank = true) :
    MemoryWritten (literal ++ gap ++ '(' :: (before ++ base ++ after) ++ [')']) offset n

/-- A shift amount: a literal, or a number written like that of a register. -/
inductive AmountWritten : Text → Int → Prop where
  | literal {t : Text} {v : Int} (denoted : Literal.read? .operand t = some v) : AmountWritten t v
  | numbered {t : Text} {n : Nat} (written : Register.Written t n) : AmountWritten t n

end Operand

/-- A target: a literal, or a name between percent signs. -/
inductive Target.Written : Text → Target → Prop where
  | literal {t : Text} {v : Int} (denoted : Literal.read? .operand t = some v) :
    Written t (.literal v)
  | label {name : Text} (identifier : isIdentifier name = true) :
    Written ('%' :: name ++ ['%']) (.label name)

/-- A line that is a mnemonic alone, or a mnemonic, one or more blanks, and
operands between commas. Blanks around an operand do not count. -/
inductive Phrase.Written : Text → Text → List Text → Prop where
  | alone (mnemonic : Text) : Written mnemonic mnemonic []
  | followed (mnemonic : Text) {gap : Text} (rest : Text) (present : gap ≠ [])
    (blank : gap.all isBlank = true) :
    Written (mnemonic ++ gap ++ rest) mnemonic ((splitAt ',' rest).map trim)

/-- The operands of each operation, and the instruction that they make. -/
inductive Operation.Written : Operation → List Text → Instruction → Prop where
  | arith {op : Arith} {x y : Text} {ra rb : Register} (first : Register.Written x ra.val)
    (second : Register.Written y rb.val) : Written (.arith op) [x, y] (.arith op ra rb)
  | shift {op : Shift} {x y : Text} {ra : Register} {amount : Int}
    (first : Register.Written x ra.val) (second : Operand.AmountWritten y amount) :
    Written (.shift op) [x, y] (.shift op ra amount)
  | loadByte {op : LoadByte} {x y : Text} {ra : Register} {byte : Immediate}
    (first : Register.Written x ra.val) (second : Immediate.Written y byte) :
    Written (.loadByte op) [x, y] (.loadByte op ra byte)
  | jump {op : Jump} {x : Text} {target : Target} (plain : op ≠ .bz) (only : target.Written x) :
    Written (.jump op) [x] (.jump op target none)
  | branch {x : Text} {target : Target} (first : target.Written x) (p : Predicate) :
    Written (.jump .bz) [x, Mnemonic.name p] (.jump .bz target (some p))
  | transfer {op : Transfer} {x y : Text} {ra rb : Register} {offset : Int} (memory : op ≠ .jr)
    (first : Register.Written x ra.val) (second : Operand.MemoryWritten y offset rb.val) :
    Written (.transfer op) [x, y] (.transfer op ra rb offset)
  | jumpRegister {x : Text} {ra : Register} (only : Register.Written x ra.val) :
    Written (.transfer .jr) [x] (.transfer .jr ra .zero 0)
  | hiLoByte {op : HiLoByte} {x : Text} {data : Int} (only : Literal.read? .operand x = some data) :
    Written (.hiLoByte op) [x] (.hiLoByte op data)
  | hiLoMove {op : HiLoMove} {x : Text} {reg : Register} (only : Register.Written x reg.val) :
    Written (.hiLoMove op) [x] (.hiLoMove op reg)
  | stack {op : Stack} {x : Text} {reg : Register} (only : Register.Written x reg.val) :
    Written (.stack op) [x] (.stack op reg)
  | hab : Written .hab [] .hab

/-! Operands -/

theorem Immediate.written_literal {t : Text} {v : Int} :
    Written t (.literal v) ↔ Literal.read? .operand t = some v := by
  constructor
  · intro written
    cases written with
    | literal denoted => exact denoted
  · exact .literal

theorem Target.written_immediate {t : Text} {target : Target} :
    Immediate.Written t target.immediate ↔ target.Written t := by
  constructor
  · intro written
    cases target with
    | literal v => exact .literal (Immediate.written_literal.mp written)
    | label name =>
      cases written with
      | symbol identifier marked =>
        cases marked with
        | whole => exact .label identifier
  · intro written
    cases written with
    | literal denoted => exact .literal denoted
    | label identifier => exact .symbol identifier .whole

namespace Operand

theorem read?_eq_register {t : Text} {n : Nat} :
    read? t = some (.register n) ↔ Register.Written t n := by
  constructor
  · intro h
    cases classed_of_read? h with
    | register written => exact written
  · intro written
    exact Register.read?_of_readNumber? (Register.readNumber?_eq_some.mpr written)

theorem read?_eq_immediate {t : Text} {i : Immediate} :
    read? t = some (.immediate i) ↔ Immediate.Written t i := by
  constructor
  · intro h
    cases classed_of_read? h with
    | immediate written => exact written
  · exact read?_of_immediate

theorem read?_eq_memory {t : Text} {offset : Immediate} {base : Nat} :
    read? t = some (.memory offset base) ↔ readMemory? t = some (.memory offset base) := by
  constructor
  · intro h
    cases classed_of_read? h with
    | memory found spelled => exact found
  · intro found
    rw [read?, found]
    rfl

/-- The front of a trimmed operand starts with no blank, if anything is left of it
when it is trimmed. -/
theorem head_of_trim {t front rest : Text} (trimmed : trim t = t) (whole : t = front ++ rest)
    (present : trim front ≠ []) : ∀ c ∈ front.head?, isBlank c = false := by
  cases front with
  | nil => exact absurd rfl present
  | cons first front =>
    have start := head_trim t
    rw [trimmed, whole] at start
    exact start

/-- The memory operands, of which blanks at either end are cut off. -/
theorem readMemory?_eq_some {t : Text} (trimmed : trim t = t) {offset : Int} {n : Nat} :
    readMemory? t = some (.memory (.literal offset) n) ↔ MemoryWritten t offset n := by
  constructor
  · intro h
    unfold readMemory? at h
    split at h
    · rename_i last
      split at h
      · rename_i front inner cut
        split at h
        · rename_i base value number found
          cases h
          have denoted := Immediate.written_literal.mp (Immediate.read?_eq_some.mp found)
          obtain ⟨-, parts⟩ := cutAt?_eq_some.mp cut
          have ended : t = front ++ '(' :: inner ++ [')'] := by
            rw [← parts]
            exact (List.dropLast_append_getLast? ')' last).symm
          have start := head_of_trim trimmed (ended.trans (List.append_assoc ..))
            (Literal.solid_of_read? denoted).1
          obtain ⟨gap, outside, whole⟩ := exists_tail start
          obtain ⟨before, after, left, right, padded⟩ := exists_pads inner
          rw [ended, whole, padded]
          exact .mk denoted (Register.readNumber?_eq_some.mp number) outside left right
        · cases h
      · cases h
    · cases h
  · intro written
    cases written with
    | @mk literal base gap before after _ _ denoted numbered outside front back =>
      have number := Register.readNumber?_eq_some.mpr numbered
      have value := Immediate.read?_eq_some.mpr (.literal denoted)
      have left : trim (literal ++ gap) = literal :=
        trim_padded (Literal.solid_of_read? denoted) (List.all_nil ..) outside
      have right := trim_padded (Register.piece_of_readNumber? number).1 front back
      have plain : '(' ∉ literal ++ gap := by
        intro opening
        rcases List.mem_append.mp opening with opening | opening
        · exact Literal.not_mem_of_read? denoted (by decide) opening
        · exact absurd (List.all_eq_true.mp outside _ opening) (by decide)
      have cut : cutAt? '(' (literal ++ gap ++ '(' :: (before ++ base ++ after)) =
          some (literal ++ gap, before ++ base ++ after) := cutAt?_eq_some.mpr ⟨plain, rfl⟩
      rw [readMemory?, if_pos List.getLast?_concat, List.dropLast_concat, cut]
      simp only [right, number, left, value]

/-- The text is that of an operand which `reader` takes for `a`. -/
def Taken {α : Type} (reader : Text → Operand → Except Fault α) (line t : Text) (a : α) : Prop :=
  ∃ o, read? t = some o ∧ reader line o = .ok a

section Taken

variable {line t : Text}

theorem taken_register {r : Register} : Taken toRegister line t r ↔ Register.Written t r.val := by
  have reader : ∀ o, toRegister line o = .ok r ↔ o = .register r.val := by
    intro o
    cases o with
    | register number => simp [toRegister, Register.ofNat_eq_ok]
    | immediate | memory | word => simp [toRegister]
  simp only [Taken, reader, exists_eq_right, read?_eq_register]

theorem taken_byte {i : Immediate} : Taken toByte line t i ↔ Immediate.Written t i := by
  have reader : ∀ o, toByte line o = .ok i ↔ o = .immediate i := by
    intro o
    cases o <;> simp [toByte]
  simp only [Taken, reader, exists_eq_right, read?_eq_immediate]

theorem taken_literal {v : Int} :
    Taken toLiteral line t v ↔ Literal.read? .operand t = some v := by
  have reader : ∀ o, toLiteral line o = .ok v ↔ o = .immediate (.literal v) := by
    intro o
    cases o with
    | immediate i => cases i <;> simp [toLiteral]
    | register | memory | word => simp [toLiteral]
  simp only [Taken, reader, exists_eq_right, read?_eq_immediate, Immediate.written_literal]

theorem taken_target {target : Target} : Taken toTarget line t target ↔ target.Written t := by
  have reader : ∀ o, toTarget line o = .ok target ↔ o = .immediate target.immediate := by
    intro o
    constructor
    · intro h
      unfold toTarget at h
      split at h
      · cases h
        rfl
      · cases h
        rfl
      · cases h
    · rintro rfl
      exact Target.toTarget_immediate line target
  simp only [Taken, reader, exists_eq_right, read?_eq_immediate, Target.written_immediate]

theorem taken_predicate {p : Predicate} :
    Taken toPredicate line t p ↔ t = Mnemonic.name p := by
  constructor
  · rintro ⟨o, found, taken⟩
    cases classed_of_read? found with
    | word identifier =>
      unfold toPredicate at taken
      simp only at taken
      split at taken
      · rename_i known
        cases taken
        exact (Mnemonic.ofName?_eq_some.mp known).symm
      · cases taken
    | memory | register | immediate => cases taken
  · rintro rfl
    exact ⟨_, read?_predicate p, Instruction.toPredicate_name line p⟩

theorem taken_amount {v : Int} : Taken toAmount line t v ↔ AmountWritten t v := by
  constructor
  · rintro ⟨o, found, taken⟩
    unfold toAmount at taken
    split at taken
    · cases taken
      exact .numbered (read?_eq_register.mp found)
    · cases taken
      exact .literal (Immediate.written_literal.mp (read?_eq_immediate.mp found))
    · cases taken
  · intro written
    cases written with
    | literal denoted => exact ⟨_, read?_eq_immediate.mpr (.literal denoted), rfl⟩
    | numbered written => exact ⟨_, read?_eq_register.mpr written, rfl⟩

theorem taken_memory (trimmed : trim t = t) {m : Int × Register} :
    Taken toMemory line t m ↔ MemoryWritten t m.1 m.2.val := by
  have reader : ∀ o, toMemory line o = .ok m ↔ o = .memory (.literal m.1) m.2.val := by
    intro o
    constructor
    · intro h
      unfold toMemory at h
      split at h
      · rename_i offset base
        cases known : Register.ofNat base with
        | error cause => simp [known, Except.map] at h
        | ok rb =>
          obtain rfl : (offset, rb) = m := by simpa [known, Except.map] using h
          rw [Register.ofNat_eq_ok.mp known]
      · cases h
      · cases h
    · rintro rfl
      exact Instruction.toMemory_val line m.1 m.2
  simp only [Taken, reader, exists_eq_right, read?_eq_memory, readMemory?_eq_some trimmed]

end Taken

end Operand

namespace Operation

open Operand

section Pieces

variable {α β : Type} {line : Text} {first : Text → Operand → Except Fault α}
  {second : Text → Operand → Except Fault β} {pieces : List Text} {ins : Instruction}

theorem one_of_pieces {build : α → Instruction} :
    (∃ operands, pieces.mapM read? = some operands ∧ one line first build operands = .ok ins) ↔
      ∃ x a, pieces = [x] ∧ Taken first line x a ∧ build a = ins := by
  constructor
  · rintro ⟨_, found, taken⟩
    obtain ⟨o, a, rfl, own, rfl⟩ := one_eq_ok.mp taken
    obtain ⟨x, _, rfl, read, rest⟩ := mapM_eq_cons.mp found
    obtain rfl := mapM_eq_nil.mp rest
    exact ⟨x, a, rfl, ⟨o, read, own⟩, rfl⟩
  · rintro ⟨x, a, rfl, ⟨o, read, own⟩, rfl⟩
    refine ⟨[o], mapM_eq_cons.mpr ⟨x, [], rfl, read, rfl⟩, ?_⟩
    exact one_eq_ok.mpr ⟨o, a, rfl, own, rfl⟩

theorem two_of_pieces {build : α → β → Instruction} :
    (∃ operands, pieces.mapM read? = some operands ∧
      two line first second build operands = .ok ins) ↔
      ∃ x y a b, pieces = [x, y] ∧ Taken first line x a ∧ Taken second line y b ∧
        build a b = ins := by
  constructor
  · rintro ⟨_, found, taken⟩
    obtain ⟨o, p, a, b, rfl, front, back, rfl⟩ := two_eq_ok.mp taken
    obtain ⟨x, _, rfl, read, rest⟩ := mapM_eq_cons.mp found
    obtain ⟨y, _, rfl, read', rest⟩ := mapM_eq_cons.mp rest
    obtain rfl := mapM_eq_nil.mp rest
    exact ⟨x, y, a, b, rfl, ⟨o, read, front⟩, ⟨p, read', back⟩, rfl⟩
  · rintro ⟨x, y, a, b, rfl, ⟨o, read, front⟩, ⟨p, read', back⟩, rfl⟩
    refine ⟨[o, p], ?_, two_eq_ok.mpr ⟨o, p, a, b, rfl, front, back, rfl⟩⟩
    exact mapM_eq_cons.mpr ⟨x, [y], rfl, read, mapM_eq_cons.mpr ⟨y, [], rfl, read', rfl⟩⟩

end Pieces

/-- The operands of an operation are complete if they are written as it asks. -/
theorem written_of_complete {op : Operation} {line : Text} {pieces : List Text}
    {operands : List Operand} {ins : Instruction} (trimmed : ∀ p ∈ pieces, trim p = p)
    (found : pieces.mapM read? = some operands) (taken : op.complete line operands = .ok ins) :
    op.Written pieces ins := by
  cases op with
  | arith op =>
    obtain ⟨x, y, ra, rb, rfl, front, back, rfl⟩ := two_of_pieces.mp ⟨_, found, taken⟩
    exact .arith (taken_register.mp front) (taken_register.mp back)
  | shift op =>
    obtain ⟨x, y, ra, v, rfl, front, back, rfl⟩ := two_of_pieces.mp ⟨_, found, taken⟩
    exact .shift (taken_register.mp front) (taken_amount.mp back)
  | loadByte op =>
    obtain ⟨x, y, ra, i, rfl, front, back, rfl⟩ := two_of_pieces.mp ⟨_, found, taken⟩
    exact .loadByte (taken_register.mp front) (taken_byte.mp back)
  | jump op =>
    cases op with
    | bz =>
      obtain ⟨x, y, target, p, rfl, front, back, rfl⟩ := two_of_pieces.mp ⟨_, found, taken⟩
      obtain rfl := taken_predicate.mp back
      exact .branch (taken_target.mp front) p
    | j | jal | bhleq =>
      obtain ⟨x, target, rfl, only, rfl⟩ := one_of_pieces.mp ⟨_, found, taken⟩
      exact .jump (by decide) (taken_target.mp only)
  | transfer op =>
    cases op with
    | jr =>
      obtain ⟨x, ra, rfl, only, rfl⟩ := one_of_pieces.mp ⟨_, found, taken⟩
      exact .jumpRegister (taken_register.mp only)
    | sw | lw =>
      obtain ⟨x, y, ra, m, rfl, front, back, rfl⟩ := two_of_pieces.mp ⟨_, found, taken⟩
      have second := (taken_memory (trimmed y (by simp))).mp back
      exact .transfer (by decide) (taken_register.mp front) second
  | hiLoByte op =>
    obtain ⟨x, v, rfl, only, rfl⟩ := one_of_pieces.mp ⟨_, found, taken⟩
    exact .hiLoByte (taken_literal.mp only)
  | hiLoMove op =>
    obtain ⟨x, r, rfl, only, rfl⟩ := one_of_pieces.mp ⟨_, found, taken⟩
    exact .hiLoMove (taken_register.mp only)
  | stack op =>
    obtain ⟨x, r, rfl, only, rfl⟩ := one_of_pieces.mp ⟨_, found, taken⟩
    exact .stack (taken_register.mp only)
  | hab =>
    obtain ⟨rfl, rfl⟩ := endOfOperands_eq_ok.mp taken
    obtain rfl := mapM_eq_nil.mp found
    exact .hab

/-- Operands that are written as an operation asks make its instruction. -/
theorem complete_of_written {op : Operation} (line : Text) {pieces : List Text}
    {ins : Instruction} (trimmed : ∀ p ∈ pieces, trim p = p) (written : op.Written pieces ins) :
    ∃ operands, pieces.mapM read? = some operands ∧ op.complete line operands = .ok ins := by
  cases written with
  | arith first second =>
    exact two_of_pieces.mpr
      ⟨_, _, _, _, rfl, taken_register.mpr first, taken_register.mpr second, rfl⟩
  | shift first second =>
    exact two_of_pieces.mpr
      ⟨_, _, _, _, rfl, taken_register.mpr first, taken_amount.mpr second, rfl⟩
  | loadByte first second =>
    exact two_of_pieces.mpr ⟨_, _, _, _, rfl, taken_register.mpr first, taken_byte.mpr second, rfl⟩
  | @jump op x target plain only =>
    have taken : Taken toTarget line x target := taken_target.mpr only
    cases op with
    | bz => exact absurd rfl plain
    | j | jal | bhleq => exact one_of_pieces.mpr ⟨_, _, rfl, taken, rfl⟩
  | branch first p =>
    exact two_of_pieces.mpr
      ⟨_, _, _, _, rfl, taken_target.mpr first, taken_predicate.mpr rfl, rfl⟩
  | @transfer op _ y _ rb offset memory first second =>
    have taken : Taken toMemory line y (offset, rb) :=
      (taken_memory (trimmed y (by simp))).mpr second
    cases op with
    | jr => exact absurd rfl memory
    | sw | lw =>
      exact two_of_pieces.mpr ⟨_, _, _, _, rfl, taken_register.mpr first, taken, rfl⟩
  | jumpRegister only => exact one_of_pieces.mpr ⟨_, _, rfl, taken_register.mpr only, rfl⟩
  | hiLoByte only => exact one_of_pieces.mpr ⟨_, _, rfl, taken_literal.mpr only, rfl⟩
  | hiLoMove only => exact one_of_pieces.mpr ⟨_, _, rfl, taken_register.mpr only, rfl⟩
  | stack only => exact one_of_pieces.mpr ⟨_, _, rfl, taken_register.mpr only, rfl⟩
  | hab => exact ⟨[], rfl, rfl⟩

theorem name_of_ofName? {t : Text} {op : Operation} (h : ofName? t = some op) : op.name = t := by
  simp only [ofName?, Option.orElse_eq_orElse, Option.orElse_eq_or, Option.or_eq_some_iff,
    Option.map_eq_some_iff, Mnemonic.ofName?_eq_some, Option.ite_none_right_eq_some,
    Option.some.injEq] at h
  rcases h with ⟨_, rfl, rfl⟩ | ⟨-, ⟨_, rfl, rfl⟩ | ⟨-, ⟨_, rfl, rfl⟩ | ⟨-, ⟨_, rfl, rfl⟩ |
    ⟨-, ⟨_, rfl, rfl⟩ | ⟨-, ⟨_, rfl, rfl⟩ | ⟨-, ⟨_, rfl, rfl⟩ | ⟨-, ⟨_, rfl, rfl⟩ |
      ⟨-, rfl, rfl⟩⟩⟩⟩⟩⟩⟩⟩
  all_goals rfl

end Operation

/-! Phrases -/

namespace Phrase

/-- The operands in a text that ends in no blank. -/
theorem readOperands?_eq {t : Text} (present : t ≠ [])
    (last : ∀ c ∈ t.getLast?, isBlank c = false) :
    readOperands? t = ((splitAt ',' t).map trim).mapM Operand.read? := by
  obtain ⟨before, front, whole⟩ := exists_lead last
  have pieces : (splitAt ',' t).map trim = (splitAt ',' (trim t)).map trim := by
    conv_lhs => rw [whole]
    exact map_trim_splitAt (by decide) front (trim t)
  have some_left : (trim t).isEmpty = false := by
    apply Bool.eq_false_iff.mpr
    intro empty
    rw [List.isEmpty_iff.mp empty, List.append_nil] at whole
    have visible := last _ (List.getLast_mem_getLast? present)
    rw [List.all_eq_true.mp front _ (whole ▸ List.getLast_mem present)] at visible
    cases visible
  simp only [readOperands?, some_left, Bool.false_eq_true, if_false]
  rw [pieces, List.mapM_map]
  rfl

theorem read_eq_ok {line m : Text} (trimmed : trim line = line) {operands : List Operand} :
    read line = .ok ⟨m, operands⟩ ↔
      Solid m ∧ ∃ pieces, Written line m pieces ∧ pieces.mapM Operand.read? = some operands := by
  have last := last_trim line
  rw [trimmed] at last
  constructor
  · intro h
    have whole := cutWord_append line
    obtain ⟨visible, stop⟩ := ends_cutWord line
    generalize cut : cutWord line = parts at whole visible stop
    obtain ⟨front, rest⟩ := parts
    simp only [read, trimmed, cut] at h
    split at h
    · cases h
    · rename_i present
      split at h
      · rename_i found
        cases h
        refine ⟨⟨by simpa using present, visible⟩, ?_⟩
        cases rest with
        | nil =>
          obtain rfl : m = line := by simpa using whole
          cases found
          exact ⟨[], .alone m, rfl⟩
        | cons c rest =>
          have blank : List.all [c] isBlank = true := by simpa using stop c rfl
          have whole : line = m ++ [c] ++ rest := by simpa using whole.symm
          refine ⟨(splitAt ',' rest).map trim, ?_, ?_⟩
          · rw [whole]
            exact .followed m rest (List.cons_ne_nil _ _) blank
          · have some_gap : [c] ++ rest ≠ [] := List.cons_ne_nil c rest
            rw [whole, List.append_assoc, List.getLast?_append_of_ne_nil m some_gap] at last
            have operands := readOperands?_eq some_gap last
            rw [map_trim_splitAt (by decide) blank] at operands
            exact operands.symm.trans found
      · cases h
  · rintro ⟨solid, pieces, written, found⟩
    cases written with
    | alone =>
      cases found
      exact read_word solid
    | @followed _ gap rest present blank =>
      have some_left : m.isEmpty = false := by simpa using solid.1
      have cut : cutWord (m ++ gap ++ rest) = (m, gap ++ rest) := by
        obtain ⟨c, gap, rfl⟩ := List.exists_cons_of_ne_nil present
        rw [List.append_assoc]
        exact cutWord_solid_append solid (by simpa using (Bool.and_eq_true_iff.mp blank).1) _
      have some_gap : gap ++ rest ≠ [] := List.append_ne_nil_of_left_ne_nil present rest
      rw [List.append_assoc, List.getLast?_append_of_ne_nil m some_gap] at last
      have operands := readOperands?_eq some_gap last
      rw [map_trim_splitAt (by decide) blank, found] at operands
      simp only [read, trimmed, cut, some_left, operands]
      rfl

theorem trim_of_mem_pieces {line m : Text} {pieces : List Text} (h : Written line m pieces) :
    ∀ p ∈ pieces, trim p = p := by
  cases h with
  | alone => simp
  | followed rest present blank =>
    intro p hp
    obtain ⟨piece, -, rfl⟩ := List.mem_map.mp hp
    exact trim_trim piece

end Phrase

/-- A line is read as an instruction exactly if it is a mnemonic with the operands
that the mnemonic takes, and it is the instruction that they make. -/
theorem Instruction.parse_iff_written (line : Text) (ins : Instruction) :
    parse line = .ok ins ↔
      ∃ op pieces, Phrase.Written (trim line) (Operation.name op) pieces ∧
        op.Written pieces ins := by
  constructor
  · intro h
    obtain ⟨⟨m, operands⟩, op, found, known, complete⟩ := parse_eq_ok h
    obtain ⟨-, pieces, written, read⟩ := (Phrase.read_eq_ok (trim_trim line)).mp found
    obtain rfl := Operation.name_of_ofName? known
    have trimmed := Phrase.trim_of_mem_pieces written
    exact ⟨op, pieces, written, Operation.written_of_complete trimmed read complete⟩
  · rintro ⟨op, pieces, written, spelled⟩
    have trimmed := Phrase.trim_of_mem_pieces written
    obtain ⟨operands, read, complete⟩ :=
      Operation.complete_of_written (trim line) trimmed spelled
    have found := (Phrase.read_eq_ok (trim_trim line)).mpr ⟨op.readable.solid, pieces, written, read⟩
    rw [← complete, ← parse_phrase (trim_trim line) found]
    simp only [parse, trim_trim]

end Anem
