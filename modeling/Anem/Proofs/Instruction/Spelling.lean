import Anem.Instruction.Parse
import Anem.Proofs.Operands

namespace Anem

open Text

namespace Operation

def name : Operation → Text
  | arith op => Mnemonic.name op
  | shift op => Mnemonic.name op
  | loadByte op => Mnemonic.name op
  | jump op => Mnemonic.name op
  | transfer op => Mnemonic.name op
  | hiLoByte op => Mnemonic.name op
  | hiLoMove op => Mnemonic.name op
  | stack op => Mnemonic.name op
  | hab => "HAB".toList

/-- The operations, family by family. -/
def all : List Operation :=
  Mnemonic.all.map arith ++ Mnemonic.all.map shift ++ Mnemonic.all.map loadByte ++
    Mnemonic.all.map jump ++ Mnemonic.all.map transfer ++ Mnemonic.all.map hiLoByte ++
    Mnemonic.all.map hiLoMove ++ Mnemonic.all.map stack ++ [hab]

theorem mem_all (op : Operation) : op ∈ all := by
  cases op
  all_goals simp [all, Mnemonic.mem_all]

/-- What can be checked of each operation holds of every one. -/
theorem of_all {P : Operation → Prop} [DecidablePred P] (h : all.all (fun op => P op) = true)
    (op : Operation) : P op :=
  of_decide_eq_true (List.all_eq_true.mp h op (mem_all op))

/-- What a mnemonic has to satisfy to be read as the operation it names. -/
structure Readable (op : Operation) : Prop where
  ofName? : ofName? op.name = some op
  solid : Solid op.name
  integral : isFloatingPoint op.name = false

instance (op : Operation) : Decidable (Readable op) :=
  decidable_of_iff (Operation.ofName? op.name = some op ∧ Solid op.name ∧
    isFloatingPoint op.name = false) ⟨fun h => ⟨h.1, h.2.1, h.2.2⟩, fun h => ⟨h.1, h.2, h.3⟩⟩

/-- No two operations share a name, and none has that of a reserved one. -/
theorem readable : ∀ op : Operation, op.Readable :=
  of_all (by decide +kernel)

theorem endOfOperands_eq_ok {line : Text} {build ins : Instruction} {operands : List Operand} :
    endOfOperands line build operands = .ok ins ↔ operands = [] ∧ build = ins := by
  cases operands <;> simp [endOfOperands]

theorem one_eq_ok {α : Type} {line : Text} {first : Text → Operand → Except Fault α}
    {build : α → Instruction} {operands : List Operand} {ins : Instruction} :
    one line first build operands = .ok ins ↔
      ∃ x a, operands = [x] ∧ first line x = .ok a ∧ build a = ins := by
  cases operands with
  | nil => simp [one]
  | cons x rest =>
    simp only [one, Fault.bind_eq_ok, endOfOperands_eq_ok, List.cons.injEq]
    constructor
    · rintro ⟨a, ha, rfl, rfl⟩
      exact ⟨x, a, ⟨rfl, rfl⟩, ha, rfl⟩
    · rintro ⟨x, a, ⟨rfl, rfl⟩, ha, rfl⟩
      exact ⟨a, ha, rfl, rfl⟩

theorem two_eq_ok {α β : Type} {line : Text} {first : Text → Operand → Except Fault α}
    {second : Text → Operand → Except Fault β} {build : α → β → Instruction}
    {operands : List Operand} {ins : Instruction} :
    two line first second build operands = .ok ins ↔
      ∃ x y a b, operands = [x, y] ∧ first line x = .ok a ∧ second line y = .ok b ∧
        build a b = ins := by
  cases operands with
  | nil => simp [two]
  | cons x rest =>
    simp only [two, Fault.bind_eq_ok, one_eq_ok, List.cons.injEq]
    constructor
    · rintro ⟨a, ha, y, b, rfl, hb, rfl⟩
      exact ⟨x, y, a, b, ⟨rfl, rfl⟩, ha, hb, rfl⟩
    · rintro ⟨x, y, a, b, ⟨rfl, rfl⟩, ha, hb, rfl⟩
      exact ⟨a, ha, y, b, rfl, hb, rfl⟩

end Operation

namespace Instruction

theorem parse_phrase {text : Text} {op : Operation} {operands : List Operand}
    (trimmed : trim text = text) (found : Phrase.read text = .ok ⟨op.name, operands⟩) :
    parse text = op.complete text operands := by
  simp only [parse, trimmed, found, bind, Except.bind, op.readable.integral, op.readable.ofName?]
  rfl

theorem parse_word (op : Operation) : parse op.name = op.complete op.name [] :=
  parse_phrase (trim_solid op.readable.solid) (Phrase.read_word op.readable.solid)

theorem parse_one (op : Operation) {x : Text} (hx : Piece x) {o : Operand}
    (first : Operand.read? x = some o) :
    parse (op.name ++ ' ' :: x) = op.complete (op.name ++ ' ' :: x) [o] := by
  have ends := trim_between op.readable.solid [' '] hx.1
  exact parse_phrase (by simpa using ends) (Phrase.read_one op.readable.solid hx first)

theorem parse_two (op : Operation) {x y : Text} (hx : Piece x) (hy : Piece y) (gap : Text)
    (blank : gap.all isBlank = true) (plain : ',' ∉ gap) {o p : Operand}
    (first : Operand.read? x = some o) (second : Operand.read? y = some p) :
    parse (op.name ++ ' ' :: x ++ ',' :: gap ++ y) =
      op.complete (op.name ++ ' ' :: x ++ ',' :: gap ++ y) [o, p] := by
  have ends := trim_between op.readable.solid (' ' :: x ++ ',' :: gap) hy.1
  exact parse_phrase (by simpa using ends)
    (Phrase.read_two op.readable.solid hx hy blank plain first second)

end Instruction

/-- The targets that a line can spell. -/
def Target.Spelled : Target → Prop
  | literal value => Literal.InRange value
  | label name => isIdentifier name = true

/-- A target is written like an immediate. -/
def Target.immediate : Target → Immediate
  | literal value => .literal value
  | label name => .symbol name .whole

namespace Target

theorem print_immediate (t : Target) : t.immediate.print = t.print := by
  cases t <;> rfl

theorem spelled_immediate {t : Target} (h : t.Spelled) : t.immediate.Spelled := by
  cases t <;> exact h

theorem toTarget_immediate (line : Text) (t : Target) :
    Operand.toTarget line (.immediate t.immediate) = .ok t := by
  cases t <;> rfl

end Target

namespace Instruction

/-- The instructions that a line can spell. A predicate belongs to a branch on
zero alone, and a jump to a register has no other operand. -/
def Spelled : Instruction → Prop
  | shift _ _ amount => Literal.InRange amount
  | loadByte _ _ byte => byte.Spelled
  | jump op target predicate => target.Spelled ∧ (predicate.isSome = true ↔ op = .bz)
  | transfer op _ rb offset => Literal.InRange offset ∧ (op = .jr → rb = .zero ∧ offset = 0)
  | hiLoByte _ data => Literal.InRange data
  | _ => True

theorem parse_printPair (op : Operation) {x y : Text} (hx : Piece x) (hy : Piece y) {o p : Operand}
    (first : Operand.read? x = some o) (second : Operand.read? y = some p) :
    parse (printPair op.name x y) = op.complete (printPair op.name x y) [o, p] := by
  have := parse_two op hx hy [' '] (by decide) (by decide) first second
  simpa [printPair] using this

theorem toRegister_val (line : Text) (r : Register) :
    Operand.toRegister line (.register r.val) = .ok r :=
  Register.ofNat_val r

theorem toMemory_val (line : Text) (offset : Int) (r : Register) :
    Operand.toMemory line (.memory (.literal offset) r.val) = .ok (offset, r) := by
  simp only [Operand.toMemory, Register.ofNat_val]
  rfl

theorem toPredicate_name (line : Text) (p : Predicate) :
    Operand.toPredicate line (.word (Mnemonic.name p)) = .ok p := by
  simp [Operand.toPredicate]

/-- A target is read back whatever follows it. -/
theorem read?_target {target : Target} (h : target.Spelled) :
    Piece target.print ∧ Operand.read? target.print = some (.immediate target.immediate) := by
  have spelled := Target.spelled_immediate h
  rw [← Target.print_immediate]
  exact ⟨Immediate.piece_print spelled, Operand.read?_immediate spelled⟩

theorem parse_jump {op : Jump} (plain : op ≠ .bz) {target : Target} (h : target.Spelled) :
    parse (Mnemonic.name op ++ ' ' :: target.print) = .ok (.jump op target none) := by
  obtain ⟨piece, found⟩ := read?_target h
  refine (parse_one (.jump op) piece found).trans ?_
  have taken := Target.toTarget_immediate ((Operation.jump op).name ++ ' ' :: target.print) target
  cases op with
  | bz => exact absurd rfl plain
  | j | jal | bhleq => exact Operation.one_eq_ok.mpr ⟨_, _, rfl, taken, rfl⟩

theorem parse_branch {target : Target} (h : target.Spelled) (p : Predicate) :
    parse (Mnemonic.name Jump.bz ++ ' ' :: target.print ++ ',' :: Mnemonic.name p) =
      .ok (.jump .bz target (some p)) := by
  obtain ⟨piece, found⟩ := read?_target h
  have word : Piece (Mnemonic.name p) := by cases p <;> decide
  have read := parse_two (.jump .bz) piece word [] (by decide) (by decide) found
    (Operand.read?_predicate p)
  simp only [List.append_assoc, List.cons_append, List.nil_append] at read ⊢
  refine read.trans (Operation.two_eq_ok.mpr ⟨_, _, _, _, rfl, ?_, ?_, rfl⟩)
  · exact Target.toTarget_immediate _ target
  · exact toPredicate_name _ p

theorem parse_transfer {op : Transfer} (memory : op ≠ .jr) (ra rb : Register) {offset : Int}
    (h : Literal.InRange offset) :
    parse (printPair (Mnemonic.name op) ra.print
      (signedDecimal offset ++ '(' :: rb.print ++ [')'])) = .ok (.transfer op ra rb offset) := by
  have piece : Piece (signedDecimal offset ++ '(' :: rb.print ++ [')']) :=
    ((piece_signedDecimal offset).append
      ((by decide : Piece ['(']).append (Register.piece_print rb))).append (by decide)
  refine (parse_printPair (.transfer op) (Register.piece_print ra) piece
    (Operand.read?_register ra) (Operand.read?_memory h rb)).trans ?_
  have taken := fun line => toMemory_val line offset rb
  cases op with
  | jr => exact absurd rfl memory
  | sw | lw => exact Operation.two_eq_ok.mpr ⟨_, _, _, _, rfl, toRegister_val _ ra, taken _, rfl⟩

/-- The canonical spelling reads back as the same instruction. -/
theorem parse_print {ins : Instruction} (h : ins.Spelled) : parse ins.print = .ok ins := by
  cases ins with
  | arith op ra rb =>
    refine (parse_printPair (.arith op) (Register.piece_print ra) (Register.piece_print rb)
      (Operand.read?_register ra) (Operand.read?_register rb)).trans ?_
    exact Operation.two_eq_ok.mpr ⟨_, _, _, _, rfl, toRegister_val _ ra, toRegister_val _ rb, rfl⟩
  | shift op ra amount =>
    have found : Operand.read? (signedDecimal amount) = some (.immediate (.literal amount)) :=
      Operand.read?_immediate (i := .literal amount) h
    refine (parse_printPair (.shift op) (Register.piece_print ra) (piece_signedDecimal amount)
      (Operand.read?_register ra) found).trans ?_
    exact Operation.two_eq_ok.mpr ⟨_, _, _, _, rfl, toRegister_val _ ra, rfl, rfl⟩
  | loadByte op ra byte =>
    refine (parse_printPair (.loadByte op) (Register.piece_print ra) (Immediate.piece_print h)
      (Operand.read?_register ra) (Operand.read?_immediate h)).trans ?_
    exact Operation.two_eq_ok.mpr ⟨_, _, _, _, rfl, toRegister_val _ ra, rfl, rfl⟩
  | jump op target predicate =>
    obtain ⟨spelled, branch⟩ := h
    cases predicate with
    | none => exact parse_jump (fun eq => by simpa using branch.mpr eq) spelled
    | some p =>
      obtain rfl : op = .bz := branch.mp rfl
      exact parse_branch spelled p
  | transfer op ra rb offset =>
    obtain ⟨range, bare⟩ := h
    cases op with
    | jr =>
      obtain ⟨rfl, rfl⟩ := bare rfl
      refine (parse_one (.transfer .jr) (Register.piece_print ra)
        (Operand.read?_register ra)).trans ?_
      exact Operation.one_eq_ok.mpr ⟨_, _, rfl, toRegister_val _ ra, rfl⟩
    | sw => exact parse_transfer (by decide) ra rb range
    | lw => exact parse_transfer (by decide) ra rb range
  | hiLoByte op data =>
    have found : Operand.read? (signedDecimal data) = some (.immediate (.literal data)) :=
      Operand.read?_immediate (i := .literal data) h
    refine (parse_one (.hiLoByte op) (piece_signedDecimal data) found).trans ?_
    exact Operation.one_eq_ok.mpr ⟨_, _, rfl, rfl, rfl⟩
  | hiLoMove op reg =>
    refine (parse_one (.hiLoMove op) (Register.piece_print reg)
      (Operand.read?_register reg)).trans ?_
    exact Operation.one_eq_ok.mpr ⟨_, _, rfl, toRegister_val _ reg, rfl⟩
  | stack op reg =>
    refine (parse_one (.stack op) (Register.piece_print reg) (Operand.read?_register reg)).trans ?_
    exact Operation.one_eq_ok.mpr ⟨_, _, rfl, toRegister_val _ reg, rfl⟩
  | hab => exact parse_word .hab

end Instruction

/-! What a line can be read as -/

namespace Operand

theorem inRange_of_toAmount {line : Text} {o : Operand} {v : Int} (spelled : o.Spelled)
    (h : o.toAmount line = .ok v) : Literal.InRange v := by
  unfold toAmount at h
  split at h
  · rename_i number
    cases h
    have bound : number < 100 := spelled
    exact Literal.inRange_of_small (by omega) (by omega)
  · cases h
    exact spelled
  · cases h

theorem inRange_of_toLiteral {line : Text} {o : Operand} {v : Int} (spelled : o.Spelled)
    (h : o.toLiteral line = .ok v) : Literal.InRange v := by
  unfold toLiteral at h
  split at h
  · cases h
    exact spelled
  · cases h

theorem spelled_of_toByte {line : Text} {o : Operand} {i : Immediate} (spelled : o.Spelled)
    (h : o.toByte line = .ok i) : i.Spelled := by
  unfold toByte at h
  split at h
  · cases h
    exact spelled
  · cases h

theorem spelled_of_toTarget {line : Text} {o : Operand} {t : Target} (spelled : o.Spelled)
    (h : o.toTarget line = .ok t) : t.Spelled := by
  unfold toTarget at h
  split at h
  · cases h
    exact spelled
  · cases h
    exact spelled
  · cases h

theorem inRange_of_toMemory {line : Text} {o : Operand} {m : Int × Register} (spelled : o.Spelled)
    (h : o.toMemory line = .ok m) : Literal.InRange m.1 := by
  unfold toMemory at h
  split at h
  · rename_i offset base
    cases found : Register.ofNat base with
    | error cause => simp [found, Except.map] at h
    | ok rb =>
      obtain rfl : _ = m := by simpa [found, Except.map] using h
      exact spelled
  · cases h
  · cases h

end Operand

namespace Instruction

theorem spelled_of_jump {line : Text} {op : Jump} {operands : List Operand} {ins : Instruction}
    (spelled : ∀ o ∈ operands, o.Spelled)
    (h : (Operation.jump op).complete line operands = .ok ins) : ins.Spelled := by
  cases op with
  | bz =>
    obtain ⟨x, y, target, p, rfl, hx, -, rfl⟩ := Operation.two_eq_ok.mp h
    exact ⟨Operand.spelled_of_toTarget (spelled x (by simp)) hx, by simp⟩
  | j | jal | bhleq =>
    obtain ⟨x, target, rfl, hx, rfl⟩ := Operation.one_eq_ok.mp h
    exact ⟨Operand.spelled_of_toTarget (spelled x (by simp)) hx, by simp⟩

theorem spelled_of_transfer {line : Text} {op : Transfer} {operands : List Operand}
    {ins : Instruction} (spelled : ∀ o ∈ operands, o.Spelled)
    (h : (Operation.transfer op).complete line operands = .ok ins) : ins.Spelled := by
  cases op with
  | jr =>
    obtain ⟨x, ra, rfl, -, rfl⟩ := Operation.one_eq_ok.mp h
    exact ⟨Literal.inRange_of_small (by decide) (by decide), fun _ => ⟨rfl, rfl⟩⟩
  | sw | lw =>
    obtain ⟨x, y, ra, m, rfl, -, hy, rfl⟩ := Operation.two_eq_ok.mp h
    exact ⟨Operand.inRange_of_toMemory (spelled y (by simp)) hy, nofun⟩

theorem spelled_of_complete {line : Text} {op : Operation} {operands : List Operand}
    {ins : Instruction} (spelled : ∀ o ∈ operands, o.Spelled)
    (h : op.complete line operands = .ok ins) : ins.Spelled := by
  cases op with
  | arith op =>
    obtain ⟨x, y, ra, rb, rfl, -, -, rfl⟩ := Operation.two_eq_ok.mp h
    exact trivial
  | shift op =>
    obtain ⟨x, y, ra, v, rfl, -, hy, rfl⟩ := Operation.two_eq_ok.mp h
    exact Operand.inRange_of_toAmount (spelled y (by simp)) hy
  | loadByte op =>
    obtain ⟨x, y, ra, i, rfl, -, hy, rfl⟩ := Operation.two_eq_ok.mp h
    exact Operand.spelled_of_toByte (spelled y (by simp)) hy
  | jump op => exact spelled_of_jump spelled h
  | transfer op => exact spelled_of_transfer spelled h
  | hiLoByte op =>
    obtain ⟨x, v, rfl, hx, rfl⟩ := Operation.one_eq_ok.mp h
    exact Operand.inRange_of_toLiteral (spelled x (by simp)) hx
  | hiLoMove op =>
    obtain ⟨x, r, rfl, -, rfl⟩ := Operation.one_eq_ok.mp h
    exact trivial
  | stack op =>
    obtain ⟨x, r, rfl, -, rfl⟩ := Operation.one_eq_ok.mp h
    exact trivial
  | hab =>
    obtain ⟨rfl, rfl⟩ := Operation.endOfOperands_eq_ok.mp h
    exact trivial

/-- A line that is read names an operation and has its operands. -/
theorem parse_eq_ok {text : Text} {ins : Instruction} (h : parse text = .ok ins) :
    ∃ phrase op, Phrase.read (trim text) = .ok phrase ∧
      Operation.ofName? phrase.mnemonic = some op ∧
      op.complete (trim text) phrase.operands = .ok ins := by
  simp only [parse, Fault.bind_eq_ok] at h
  obtain ⟨phrase, found, rest⟩ := h
  refine ⟨phrase, ?_⟩
  split at rest
  · simp [throw, throwThe, MonadExceptOf.throw, bind, Except.bind] at rest
  · split at rest
    · rename_i op known
      exact ⟨op, found, known, by simpa using rest⟩
    · simp [throw, throwThe, MonadExceptOf.throw] at rest

theorem spelled_of_parse {text : Text} {ins : Instruction} (h : parse text = .ok ins) :
    ins.Spelled := by
  obtain ⟨phrase, op, found, -, complete⟩ := parse_eq_ok h
  exact spelled_of_complete (Phrase.spelled_of_read found) complete

/-- **What is read is read back.** The instructions that some line is read as are
those that a line can spell, with any operands that their format takes. Each of
them is read again from its canonical spelling, however the line spelled it. -/
theorem print_reads_back (ins : Instruction) :
    ((∃ line, parse line = .ok ins) ↔ ins.Spelled) ∧
      ∀ line, parse line = .ok ins → parse ins.print = .ok ins := by
  refine ⟨⟨?_, ?_⟩, ?_⟩
  · rintro ⟨line, read⟩
    exact spelled_of_parse read
  · intro spelled
    exact ⟨ins.print, parse_print spelled⟩
  · intro line read
    exact parse_print (spelled_of_parse read)

/-- The least literal of all, and lines that are not in their canonical spelling. -/
theorem print_reads_back_loose :
    parse "AIS -9223372036854775808".toList = .ok (.hiLoByte .ais Literal.least) ∧
      parse (hiLoByte .ais Literal.least).print = .ok (.hiLoByte .ais Literal.least) ∧
      parse "LIU\t$07 ,%aB_9%u".toList = .ok (.loadByte .liu 7 (.symbol "aB_9".toList .upper)) ∧
      parse "LIU $7, %aB_9%U".toList = .ok (.loadByte .liu 7 (.symbol "aB_9".toList .upper)) ∧
      parse " LW $1, 0x7 ( $02 )".toList = .ok (.transfer .lw 1 2 7) ∧
      parse "LW $1, 7($2)".toList = .ok (.transfer .lw 1 2 7) := by
  have least : parse "AIS -9223372036854775808".toList = .ok (.hiLoByte .ais Literal.least) := rfl
  have half : parse "LIU\t$07 ,%aB_9%u".toList =
      .ok (.loadByte .liu 7 (.symbol "aB_9".toList .upper)) := rfl
  have memory : parse " LW $1, 0x7 ( $02 )".toList = .ok (.transfer .lw 1 2 7) := rfl
  have halfSpelled : (loadByte .liu 7 (.symbol "aB_9".toList .upper)).print =
      "LIU $7, %aB_9%U".toList := rfl
  have memorySpelled : (transfer .lw 1 2 7).print = "LW $1, 7($2)".toList := rfl
  refine ⟨least, (print_reads_back _).2 _ least, half, ?_, memory, ?_⟩
  · rw [← halfSpelled]
    exact (print_reads_back _).2 _ half
  · rw [← memorySpelled]
    exact (print_reads_back _).2 _ memory

end Instruction

end Anem
