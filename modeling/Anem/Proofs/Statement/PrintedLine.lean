import Anem.Proofs.Instruction.Canonical
import Anem.Proofs.Statement.Clean

namespace Anem

namespace Text

def isPrinted (c : Char) : Bool :=
  c.isUpper || c.isDigit || ['$', ',', '(', ')', ' ', '-'].contains c

/-- Text of such characters, with so many dashes at most. -/
def Printed (dashes : Nat) (t : Text) : Prop :=
  t.all isPrinted = true ∧ t.count '-' ≤ dashes

instance (dashes : Nat) (t : Text) : Decidable (Printed dashes t) :=
  inferInstanceAs (Decidable (_ ∧ _))

theorem Printed.append {m n : Nat} {s t : Text} (hs : Printed m s) (ht : Printed n t) :
    Printed (m + n) (s ++ t) := by
  refine ⟨?_, ?_⟩
  · rw [List.all_append, hs.1, ht.1, Bool.and_self]
  · rw [List.count_append]
    exact Nat.add_le_add hs.2 ht.2

theorem Printed.cons {n : Nat} {c : Char} {t : Text} (hc : isPrinted c = true) (noDash : c ≠ '-')
    (h : Printed n t) : Printed n (c :: t) := by
  refine ⟨?_, ?_⟩
  · rw [List.all_cons, hc, h.1, Bool.and_self]
  · rw [List.count_cons_of_ne noDash]
    exact h.2

theorem Printed.mono {m n : Nat} {t : Text} (h : Printed m t) (le : m ≤ n) : Printed n t :=
  ⟨h.1, Nat.le_trans h.2 le⟩

theorem Printed.not_mem {n : Nat} {t : Text} (h : Printed n t) {c : Char}
    (other : isPrinted c = false) : c ∉ t := by
  intro hc
  have printed := List.all_eq_true.mp h.1 c hc
  rw [other] at printed
  cases printed

theorem printed_of_digits {t : Text} (h : ∀ c ∈ t, c.isDigit = true) : Printed 0 t := by
  constructor
  · rw [List.all_eq_true]
    intro c hc
    rw [isPrinted, h c hc, Bool.or_true, Bool.true_or]
  · rw [Nat.le_zero, List.count_eq_zero]
    intro dash
    exact absurd (h '-' dash) (by decide)

theorem printed_decimal (n : Nat) : Printed 0 (decimal n) :=
  printed_of_digits fun _ hc => isDigit_of_mem_decimal hc

theorem printed_signedDecimal (v : Int) : Printed 1 (signedDecimal v) := by
  unfold signedDecimal
  split
  · exact Printed.append (s := ['-']) (by decide) (printed_decimal v.natAbs)
  · exact (printed_decimal v.natAbs).mono (Nat.zero_le 1)

theorem lt_of_isPrinted {c : Char} (h : isPrinted c = true) : c.toNat < 0x61 := by
  rcases Bool.or_eq_true_iff.mp h with alphanum | mark
  · rcases Bool.or_eq_true_iff.mp alphanum with upper | digit
    · have bounds : 65 ≤ c.toNat ∧ c.toNat ≤ 90 := of_decide_eq_true upper
      omega
    · have bounds := toNat_of_isDigit digit
      omega
  · have below : ['$', ',', '(', ')', ' ', '-'].all (fun d => d.toNat < 0x61) = true := by decide
    exact of_decide_eq_true (List.all_eq_true.mp below c (List.contains_iff_mem.mp mark))

theorem upperChar_of_isPrinted {c : Char} (h : isPrinted c = true) : upperChar c = [c] := by
  have small := lt_of_isPrinted h
  have same : c.toUpper = c := by
    apply dif_neg
    intro lower
    have least : 97 ≤ c.toNat := lower.1
    omega
  rw [upperChar, if_pos (by omega), same]

theorem Printed.raised {n : Nat} {t : Text} (h : Printed n t) : ∀ c ∈ t, upperChar c = [c] :=
  fun c hc => upperChar_of_isPrinted (List.all_eq_true.mp h.1 c hc)

end Text

open Text

namespace Statement

/-- A comment takes two dashes. -/
theorem tidy_of_printed {t : Text} (printed : Printed 1 t) : Tidy t where
  raised := printed.raised
  feed := printed.not_mem (by decide)
  dashes := dashes_of_count printed.2

theorem splitLabel_of_not_mem {t : Text} (h : ':' ∉ t) : splitLabel t = (none, t) := by
  unfold splitLabel
  split
  · rename_i front rest found
    rw [(cutAt?_eq_some.mp found).2] at h
    exact absurd (by simp) h
  · rfl

end Statement

theorem Register.printed_print (r : Register) : Printed 0 r.print :=
  (printed_decimal r.val).cons (by decide) (by decide)

namespace Operation

/-- What a first word has to satisfy to stand for itself. -/
structure Ordinary (op : Operation) : Prop where
  printed : Printed 0 op.name
  noPseudo : Pseudo.Kind.ofName? op.name = none
  noNop : op.name ≠ "NOP".toList
  noMadd : op.name ≠ "MADD".toList

instance (op : Operation) : Decidable (Ordinary op) :=
  decidable_of_iff (Printed 0 op.name ∧ Pseudo.Kind.ofName? op.name = none ∧
    op.name ≠ "NOP".toList ∧ op.name ≠ "MADD".toList)
    ⟨fun h => ⟨h.1, h.2.1, h.2.2.1, h.2.2.2⟩, fun h => ⟨h.1, h.2, h.3, h.4⟩⟩

theorem ordinary : ∀ op : Operation, op.Ordinary :=
  of_all (by decide +kernel)

theorem Ordinary.plain {op : Operation} (ordinary : op.Ordinary) : Statement.Plain op.name :=
  ⟨ordinary.noPseudo, ordinary.noNop, ordinary.noMadd⟩

/-- The name of an operation, and operands that end solidly. -/
def Heads (op : Operation) (t : Text) : Prop :=
  t = op.name ∨ ∃ middle last, t = op.name ++ ' ' :: middle ++ last ∧ Solid last

structure Line (op : Operation) (t : Text) : Prop where
  printed : Printed 1 t
  shape : op.Heads t

theorem line_word (op : Operation) : op.Line op.name :=
  ⟨op.ordinary.printed.mono (Nat.zero_le 1), .inl rfl⟩

theorem line_one (op : Operation) {x : Text} (printed : Printed 1 x) (solid : Solid x) :
    op.Line (op.name ++ ' ' :: x) where
  printed := (op.ordinary.printed.append (printed.cons (by decide) (by decide))).mono (by omega)
  shape := .inr ⟨[], x, by simp, solid⟩

theorem line_two (op : Operation) {m n : Nat} {x y gap : Text} (first : Printed m x)
    (between : Printed 0 gap) (second : Printed n y) (dashes : m + n ≤ 1) (solid : Solid y) :
    op.Line (op.name ++ ' ' :: x ++ ',' :: gap ++ y) where
  printed := by
    have front := op.ordinary.printed.append (first.cons (c := ' ') (by decide) (by decide))
    have rest := (between.append second).cons (c := ',') (by decide) (by decide)
    rw [List.append_assoc]
    exact (front.append rest).mono (by omega)
  shape := .inr ⟨x ++ ',' :: gap, y, by simp, solid⟩

theorem line_printPair (op : Operation) {x y : Text} (first : Printed 0 x) (second : Printed 1 y)
    (solid : Solid y) : op.Line (Instruction.printPair op.name x y) := by
  have line := line_two op first (by decide : Printed 0 [' ']) second (by decide) solid
  simpa [Instruction.printPair] using line

section Heads

variable {op : Operation} {t : Text} (heads : op.Heads t)

include heads

theorem Heads.ne_nil : t ≠ [] := by
  rcases heads with rfl | ⟨middle, last, rfl, -⟩
  · exact op.readable.solid.1
  · simp

theorem Heads.trim : Text.trim t = t := by
  rcases heads with rfl | ⟨middle, last, rfl, solid⟩
  · exact trim_solid op.readable.solid
  · exact trim_between op.readable.solid (' ' :: middle) solid

theorem Heads.firstWord : Text.firstWord t = op.name := by
  have solid := op.readable.solid
  rcases heads with rfl | ⟨middle, last, rfl, -⟩
  · have start := trimStart_solid_append solid []
    rw [List.append_nil] at start
    rw [Text.firstWord, start, cutWord_solid solid]
  · rw [Text.firstWord, List.append_assoc, trimStart_solid_append solid, List.cons_append,
      cutWord_solid_append solid (by decide)]

/-- An operation without a label is a settled statement. -/
theorem Heads.settled (tidy : Statement.Tidy t) (noColon : ':' ∉ t) (n : Nat) :
    Statement.Settled ⟨n, none, t⟩ where
  tidy := tidy
  trimmed := heads.trim
  present := heads.ne_nil
  split := Statement.splitLabel_of_not_mem noColon
  plain := heads.firstWord ▸ op.ordinary.plain

end Heads

end Operation

namespace Instruction

open Operation

/-- What a word states is printed as a line. -/
theorem line_of_states {w : Word} {ins : Instruction} (h : States w ins) :
    ∃ op : Operation, op.Line ins.print := by
  cases h with
  | @arith op ra rb =>
    exact ⟨.arith op, line_printPair (.arith op) ra.printed_print
      (rb.printed_print.mono (Nat.zero_le 1)) (Register.piece_print rb).1⟩
  | @shift op ra amount =>
    exact ⟨.shift op, line_printPair (.shift op) ra.printed_print (printed_signedDecimal amount)
      (solid_signedDecimal amount)⟩
  | @stack op reg =>
    exact ⟨.stack op, line_one (.stack op) (reg.printed_print.mono (Nat.zero_le 1))
      (Register.piece_print reg).1⟩
  | @hiLoMove op reg =>
    exact ⟨.hiLoMove op, line_one (.hiLoMove op) (reg.printed_print.mono (Nat.zero_le 1))
      (Register.piece_print reg).1⟩
  | @hiLoByte op data =>
    exact ⟨.hiLoByte op, line_one (.hiLoByte op) (printed_signedDecimal data)
      (solid_signedDecimal data)⟩
  | hab => exact ⟨.hab, line_word .hab⟩
  | @loadByte op ra value =>
    exact ⟨.loadByte op, line_printPair (.loadByte op) ra.printed_print
      (printed_signedDecimal value) (solid_signedDecimal value)⟩
  | @jumpRegister ra =>
    exact ⟨.transfer .jr, line_one (.transfer .jr) (ra.printed_print.mono (Nat.zero_le 1))
      (Register.piece_print ra).1⟩
  | @transfer op ra rb offset memory =>
    have printed : Printed 1 (signedDecimal offset ++ '(' :: rb.print ++ [')']) :=
      ((printed_signedDecimal offset).append (rb.printed_print.cons (by decide) (by decide))).append
        (by decide : Printed 0 [')'])
    have solid : Solid (signedDecimal offset ++ '(' :: rb.print ++ [')']) :=
      ((solid_signedDecimal offset).append (Solid.cons (by decide)
        (Register.piece_print rb).1)).append (by decide)
    refine ⟨.transfer op, ?_⟩
    have line := line_printPair (.transfer op) ra.printed_print printed solid
    cases op with
    | jr => exact absurd rfl memory
    | lw => exact line
    | sw => exact line
  | @branch p target =>
    have printed : Printed 0 (Mnemonic.name p) := by cases p <;> decide
    have solid : Solid (Mnemonic.name p) := by cases p <;> decide
    have line := line_two (.jump .bz) (printed_signedDecimal target) (by decide : Printed 0 [])
      printed (by decide) solid
    rw [List.append_assoc] at line
    exact ⟨.jump .bz, line⟩
  | @jump op target =>
    exact ⟨.jump op, line_one (.jump op) (printed_signedDecimal target)
      (solid_signedDecimal target)⟩

end Instruction

/-! Lines of a disassembly -/

namespace Statement

/-- A printed line is its own statement. -/
theorem ofLine_line {op : Operation} {t : Text} (line : op.Line t) (n : Nat) :
    ofLine ⟨n, t⟩ = .silent [⟨n, none, t⟩] := by
  have noColon : ':' ∉ t := line.printed.not_mem (by decide)
  exact ofLine_print (line.shape.settled (tidy_of_printed line.printed) noColon n) n

end Statement

/-- A comment line is no statement. -/
theorem Statement.ofLine_comment (w : Word) (n : Nat) :
    ofLine ⟨n, "-- undecodable word ".toList ++ w.binary⟩ = .silent [] := by
  have digits := printed_of_digits fun _ hc => Word.isDigit_of_mem_binary (w := w) hc
  have raised : upper ("-- undecodable word ".toList ++ w.binary) =
      ['-', '-'] ++ " UNDECODABLE WORD ".toList ++ w.binary := by
    have back := upper_of_fixed digits.raised
    rw [upper] at back
    rw [upper, List.flatMap_append, back]
    rfl
  have feed : '\n' ∉ " UNDECODABLE WORD ".toList ++ w.binary :=
    ((by decide : Printed 0 " UNDECODABLE WORD ".toList).append digits).not_mem (by decide)
  have gone := stripComment_append (s := []) (List.IsChain.singleton _) feed
  rw [List.nil_append] at gone
  have cleaned : clean ("-- undecodable word ".toList ++ w.binary) = [] := by
    rw [clean, raised, trim_between (by decide) _ w.solid_binary, List.append_assoc,
      List.cons_append, List.cons_append, List.nil_append, gone]
    rfl
  simp only [ofLine, cleaned, List.isEmpty_nil, if_true]

end Anem
