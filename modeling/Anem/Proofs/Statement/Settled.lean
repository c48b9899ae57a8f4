import Anem.Proofs.Pseudo
import Anem.Proofs.Statement.Lines
import Anem.Proofs.Statement.PrintedLine

namespace Anem

open Text

namespace Text

/-- Printed text without a dash, and the decimal digits of any script. -/
def Numbered (t : Text) : Prop :=
  ∀ c ∈ t, isPrinted c = true ∧ c ≠ '-' ∨ isDecimalDigit c = true

theorem numbered_of_printed {t : Text} (h : Printed 0 t) : Numbered t := by
  intro c hc
  have noDash : '-' ∉ t := List.count_eq_zero.mp (Nat.le_zero.mp h.2)
  refine Or.inl ⟨List.all_eq_true.mp h.1 c hc, ?_⟩
  rintro rfl
  exact noDash hc

theorem Numbered.append {s t : Text} (front : Numbered s) (back : Numbered t) :
    Numbered (s ++ t) := by
  intro c hc
  rcases List.mem_append.mp hc with hc | hc
  · exact front c hc
  · exact back c hc

theorem Numbered.not_mem {t : Text} (h : Numbered t) {c : Char} (other : isPrinted c = false ∨ c = '-')
    (noDigit : isDecimalDigit c = false) : c ∉ t := by
  intro hc
  rcases h c hc with ⟨printed, noDash⟩ | digit
  · rcases other with other | dash
    · rw [other] at printed
      cases printed
    · exact noDash dash
  · rw [noDigit] at digit
    cases digit

theorem Numbered.raised {t : Text} (h : Numbered t) : ∀ c ∈ t, upperChar c = [c] := by
  intro c hc
  rcases h c hc with ⟨printed, -⟩ | digit
  · exact upperChar_of_isPrinted printed
  · exact (upperChar_of_isDecimalDigit digit).1

theorem Numbered.tidy {t : Text} (h : Numbered t) : Statement.Tidy t :=
  Statement.tidy_of_no_dash h.raised (h.not_mem (Or.inl (by decide)) (by decide))
    (h.not_mem (Or.inr rfl) (by decide))

end Text

theorem Fault.map_eq_ok {α β : Type} {f : α → β} {outcome : Except Fault α} {y : β} :
    outcome.map f = .ok y ↔ ∃ x, outcome = .ok x ∧ f x = y := by
  cases outcome with
  | ok value => simp [Except.map]
  | error cause => simp [Except.map]

namespace Operation

theorem Heads.settled_of_numbered {op : Operation} {t : Text} (heads : op.Heads t)
    (numbered : Numbered t) (n : Nat) : Statement.Settled ⟨n, none, t⟩ :=
  heads.settled numbered.tidy (numbered.not_mem (Or.inl (by decide)) (by decide)) n

theorem settled_one (op : Operation) {x : Text} (numbered : Numbered x) (solid : Solid x) (n : Nat) :
    Statement.Settled ⟨n, none, op.name ++ ' ' :: x⟩ := by
  have heads : op.Heads (op.name ++ ' ' :: x) := .inr ⟨[], x, by simp, solid⟩
  apply heads.settled_of_numbered
  exact (numbered_of_printed op.ordinary.printed).append
    ((numbered_of_printed (by decide : Printed 0 [' '])).append numbered)

theorem settled_pair (op : Operation) {x y : Text} (first : Numbered x) (second : Numbered y)
    (solid : Solid y) (n : Nat) :
    Statement.Settled ⟨n, none, Instruction.printPair op.name x y⟩ := by
  have heads : op.Heads (Instruction.printPair op.name x y) :=
    .inr ⟨x ++ [',', ' '], y, by simp [Instruction.printPair], solid⟩
  apply heads.settled_of_numbered
  have front := (numbered_of_printed op.ordinary.printed).append
    ((numbered_of_printed (by decide : Printed 0 [' '])).append first)
  exact front.append ((numbered_of_printed (by decide : Printed 0 [',', ' '])).append second)

end Operation

namespace Pseudo

theorem digits_of_readRegister? {t digits : Text} (h : readRegister? t = some digits) :
    digits ≠ [] ∧ ∀ c ∈ digits, isDecimalDigit c = true := by
  unfold readRegister? at h
  split at h
  · split at h
    · rename_i spelled
      cases h
      refine ⟨?_, List.all_eq_true.mp spelled.2⟩
      rintro rfl
      simp at spelled
    · cases h
  · cases h

/-- The registers of a pseudo-instruction are spelled with digits. -/
theorem digits_of_read {kind : Kind} {body : Text} {p : Pseudo} (h : read kind body = .ok p) :
    ∀ r ∈ p.registers, r ≠ [] ∧ ∀ c ∈ r, isDecimalDigit c = true := by
  intro r hr
  cases kind with
  | liw =>
    simp only [read] at h
    repeat' split at h
    · rename_i register value first second
      obtain ⟨word, -, rfl⟩ := Fault.map_eq_ok.mp h
      rw [List.mem_singleton.mp hr]
      exact digits_of_readRegister? first
    · cases h
    · cases h
  | move =>
    simp only [read] at h
    repeat' split at h
    · rename_i target source first second
      cases h
      rcases List.mem_cons.mp hr with rfl | hr
      · exact digits_of_readRegister? first
      · rw [List.mem_singleton.mp hr]
        exact digits_of_readRegister? second
    · cases h
    · cases h
  | lhi | llo =>
    simp only [read] at h
    split at h
    · obtain ⟨word, -, rfl⟩ := Fault.map_eq_ok.mp h
      cases hr
    · cases h

/-- Every text of an expansion is a settled statement. -/
theorem settled_expand {p : Pseudo}
    (digits : ∀ r ∈ p.registers, r ≠ [] ∧ ∀ c ∈ r, isDecimalDigit c = true) (n : Nat) :
    ∀ text ∈ p.expand, Statement.Settled ⟨n, none, text⟩ := by
  have numbered {r : Text} (hr : r ∈ p.registers) : Numbered ('$' :: r) := by
    intro c hc
    rcases List.mem_cons.mp hc with rfl | hc
    · exact Or.inl (by decide)
    · exact Or.inr ((digits r hr).2 c hc)
  have solid {r : Text} (hr : r ∈ p.registers) : Solid ('$' :: r) :=
    Solid.cons (by decide)
      ⟨(digits r hr).1, fun c hc => (upperChar_of_isDecimalDigit ((digits r hr).2 c hc)).2⟩
  have byte (n : Nat) : Numbered (decimal n) := numbered_of_printed (printed_decimal n)
  have zero : Numbered ['$', '0'] := numbered_of_printed (by decide)
  intro text given
  cases p with
  | loadWord register word =>
    have own := numbered (List.mem_singleton_self register)
    rw [expand_loadWord] at given
    simp only [List.mem_cons, List.not_mem_nil, or_false] at given
    rcases given with rfl | rfl | rfl
    · exact Operation.settled_pair (.loadByte .liu) own (byte _) (solid_decimal _) n
    · exact Operation.settled_pair (.loadByte .lil) own (byte _) (solid_decimal _) n
    · exact Operation.settled_pair (.arith .add) zero zero (by decide) n
  | move target source =>
    have into : target ∈ (move target source).registers := List.mem_cons_self
    have from' : source ∈ (move target source).registers := by simp [registers]
    rw [expand_move] at given
    simp only [List.mem_cons, List.not_mem_nil, or_false] at given
    rcases given with rfl | rfl
    · exact Operation.settled_pair (.arith .and) (numbered into) zero (by decide) n
    · exact Operation.settled_pair (.arith .or) (numbered into) (numbered from') (solid from') n
  | loadHigh word =>
    simp only [expand, byteByByte, List.mem_cons, List.not_mem_nil, or_false] at given
    rcases given with rfl | rfl
    · exact Operation.settled_one (.hiLoByte .lhh) (byte _) (solid_decimal _) n
    · exact Operation.settled_one (.hiLoByte .lhl) (byte _) (solid_decimal _) n
  | loadLow word =>
    simp only [expand, byteByByte, List.mem_cons, List.not_mem_nil, or_false] at given
    rcases given with rfl | rfl
    · exact Operation.settled_one (.hiLoByte .llh) (byte _) (solid_decimal _) n
    · exact Operation.settled_one (.hiLoByte .lll) (byte _) (solid_decimal _) n

end Pseudo

namespace Statement

/-- Behind the colon of a label stands the text, after a blank if there is one. -/
theorem print_labelled {text : Text} (tidy : Tidy text) (trimmed : trim text = text) (label : Text)
    (n : Nat) :
    ∃ rest, print ⟨n, some label, text⟩ = label ++ ':' :: rest ∧ trim rest = text ∧
      Tidy (':' :: rest) ∧ ∀ c ∈ (':' :: rest).getLast?, isBlank c = false := by
  have colon : Tidy [':'] := tidy_singleton rfl (by decide) (by decide)
  cases text with
  | nil =>
    refine ⟨[], rfl, rfl, colon, ?_⟩
    rintro c ⟨⟩
    decide
  | cons c text =>
    have gap : Tidy [':', ' '] := colon.append (numbered_of_printed (by decide)).tidy (by decide)
    refine ⟨' ' :: c :: text, rfl, ?_, gap.append tidy (by decide), ?_⟩
    · exact (trim_blank_append [' '] (by decide) _).trans trimmed
    · rw [List.getLast?_cons_cons, List.getLast?_cons_cons, ← trimmed]
      exact last_trim _

/-- A label and a text that are settled each by itself are settled together. -/
theorem settled_labelled {label text : Text} (identifier : isIdentifier label = true)
    (name : Tidy label) (tidy : Tidy text) (trimmed : trim text = text)
    (plain : Plain (firstWord text)) (n : Nat) : Settled ⟨n, some label, text⟩ := by
  have solid : Solid label := (piece_of_isIdentifier identifier).1
  obtain ⟨rest, spelled, back, behind, last⟩ := print_labelled tidy trimmed label n
  constructor
  case tidy =>
    rw [spelled]
    apply name.append behind
    intro dash
    exact not_mem_of_isIdentifier identifier (by decide) (List.mem_of_getLast? dash)
  case trimmed =>
    rw [spelled]
    apply trim_of_ends
    · intro c hc
      rw [List.head?_append_of_ne_nil _ solid.1] at hc
      exact solid.2 c (List.mem_of_mem_head? hc)
    · rw [List.getLast?_append_of_ne_nil _ (List.cons_ne_nil _ _)]
      exact last
  case present =>
    rw [spelled]
    simp
  case split =>
    have cut : cutAt? ':' (label ++ ':' :: rest) = some (label, rest) :=
      cutAt?_eq_some.mpr ⟨not_mem_of_isIdentifier identifier (by decide), rfl⟩
    simp only [spelled, splitLabel, cut, trim_solid solid, identifier, back, if_true]
  case plain => exact plain

theorem body_of_unlabelled {line : SourceLine} (none : line.label = none) :
    line.body = clean line.text ∧ splitLabel line.body = (Option.none, line.body) := by
  rcases splitLabel_cases (clean line.text) with bare | ⟨front, rest, -, -, split⟩
  · have body : line.body = clean line.text := by rw [SourceLine.body, bare]
    rw [body]
    exact ⟨rfl, bare⟩
  · rw [SourceLine.label, split] at none
    cases none

/-- A text behind the label of a line is settled with it; without a label it
has to be settled by itself. -/
theorem settled_of_line {line : SourceLine} (feed : '\n' ∉ line.text) {text : Text}
    (tidy : Tidy text) (trimmed : trim text = text) (plain : Plain (firstWord text))
    (alone : line.label = none → text ≠ [] ∧ splitLabel text = (none, text)) :
    Settled ⟨line.number, line.label, text⟩ := by
  have whole := tidy_clean feed
  rcases splitLabel_cases (clean line.text) with bare | ⟨front, rest, spelled, identifier, split⟩
  · have none : line.label = none := by rw [SourceLine.label, bare]
    obtain ⟨present, split⟩ := alone none
    rw [none]
    exact ⟨tidy, trimmed, present, split, plain⟩
  · have label : line.label = some (trim front) := by rw [SourceLine.label, split]
    have part : trim front <:+: clean line.text := by
      rw [spelled]
      exact (infix_trim front).trans (List.prefix_append front _).isInfix
    rw [label]
    exact settled_labelled identifier (whole.part part) tidy trimmed plain line.number

/-- What follows the label is tidy and trimmed like the line. -/
theorem tidy_body {line : SourceLine} (feed : '\n' ∉ line.text) :
    Tidy line.body ∧ trim line.body = line.body := by
  have whole := tidy_clean feed
  rw [SourceLine.body]
  rcases splitLabel_cases (clean line.text) with bare | ⟨front, rest, spelled, -, split⟩
  · rw [bare]
    exact ⟨whole, trim_clean line.text⟩
  · have part : trim rest <:+: clean line.text := by
      rw [spelled]
      exact (infix_trim rest).trans ((List.suffix_cons ':' rest).trans
        (List.suffix_append front _)).isInfix
    rw [split]
    exact ⟨whole.part part, trim_trim rest⟩

/-- The step lemma: every statement of a line is settled. -/
theorem Reading.settled {line : SourceLine} {t : Traced (List Statement)} (reading : Reading line t)
    (feed : '\n' ∉ line.text) : ∀ s ∈ t.value, Settled s := by
  have label : ∀ s ∈ (labelAlone line.number line.mnemonic line.label).value, Settled s := by
    intro s hs
    obtain ⟨name, named, rfl⟩ := mem_labelAlone hs
    have empty : Tidy [] := (numbered_of_printed (by decide)).tidy
    rw [← named]
    apply settled_of_line feed empty rfl ⟨by decide, by decide, by decide⟩
    intro none
    rw [none] at named
    cases named
  intro s hs
  cases reading with
  | blank | crowded | missing => cases hs
  | nothing alone =>
    have tidy : Tidy noOperation := (numbered_of_printed (by decide)).tidy
    rw [List.mem_singleton.mp hs]
    apply settled_of_line feed tidy (by decide) ⟨by decide, by decide, by decide⟩
    exact fun _ => ⟨by decide, splitLabel_of_not_mem (by decide)⟩
  | expanded named read =>
    rw [Traced.value_andThen] at hs
    rcases List.mem_append.mp hs with hs | hs
    · exact label s hs
    · obtain ⟨text, given, rfl⟩ := List.mem_map.mp hs
      exact Pseudo.settled_expand (Pseudo.digits_of_read read) line.number text given
  | refused named read =>
    simp only [Traced.value_andThen] at hs
    exact label s hs
  | plain present pseudo noNop known =>
    obtain ⟨tidy, trimmed⟩ := tidy_body feed
    rw [List.mem_singleton.mp hs]
    apply settled_of_line feed tidy trimmed
    · exact ⟨pseudo, noNop, fun madd => by simp [SourceLine.isMissing_iff.mpr madd] at known⟩
    · intro none
      obtain ⟨body, split⟩ := body_of_unlabelled none
      exact ⟨body ▸ present, split⟩

end Statement

end Anem
