import Anem.Proofs.Statement.Lines
import Anem.Proofs.Statement.PrintedLine

namespace Anem

open Text

namespace Statement

/-- Nothing, or two dashes and what follows them on the line. -/
def IsComment (t : Text) : Prop :=
  t = [] ∨ ∃ rest, t = '-' :: '-' :: rest ∧ '\n' ∉ rest

/-- A body, alone or behind a label. -/
inductive Headed : Text → Option Text → Text → Prop where
  | bare (body : Text) : Headed body none body
  | label {name gap pad body : Text} (identifier : isIdentifier name = true)
    (before : gap.all isBlank = true) (after : pad.all isBlank = true) :
    Headed (name ++ (gap ++ ':' :: (pad ++ body))) (some name) body

/-- A line that has this label and this body once it is in upper case, with
blanks around them and perhaps a comment. -/
def Spoken (t : Text) (label : Option Text) (body : Text) : Prop :=
  ∃ before said after comment, upper t = before ++ (said ++ (after ++ comment)) ∧
    before.all isBlank = true ∧ after.all isBlank = true ∧ IsComment comment ∧
    Headed said label body

/-- Text with a visible character at either end, and without two dashes in a row
even if a dash follows it. -/
structure Unbroken (t : Text) : Prop where
  present : t ≠ []
  first : ∀ c ∈ t.head?, isBlank c = false
  last : ∀ c ∈ t.getLast?, isBlank c = false
  dashes : t.count '-' ≤ 1
  noDash : t.getLast? ≠ some '-'

theorem Unbroken.trimmed {t : Text} (unbroken : Unbroken t) : trim t = t :=
  trim_of_ends unbroken.first unbroken.last

theorem Unbroken.behind {s middle t : Text} (solid : Solid s) (clear : '-' ∉ s ++ middle)
    (unbroken : Unbroken t) : Unbroken (s ++ (middle ++ t)) := by
  have ending : (s ++ (middle ++ t)).getLast? = t.getLast? := by
    rw [← List.append_assoc, List.getLast?_append_of_ne_nil _ unbroken.present]
  constructor
  case present => simp [solid.1]
  case first =>
    rw [List.head?_append_of_ne_nil _ solid.1]
    exact fun c hc => solid.2 c (List.mem_of_mem_head? hc)
  case last =>
    rw [ending]
    exact unbroken.last
  case dashes =>
    rw [← List.append_assoc, List.count_append, List.count_eq_zero.mpr clear, Nat.zero_add]
    exact unbroken.dashes
  case noDash =>
    rw [ending]
    exact unbroken.noDash

/-- Blanks and a comment behind a text are all that is stripped. -/
theorem stripped_of_unbroken {said after comment : Text} (unbroken : Unbroken said)
    (blank : after.all isBlank = true) (ending : IsComment comment) :
    trim (stripComment (trim (said ++ (after ++ comment)))) = said := by
  have start (more : Text) : ∀ c ∈ (said ++ more).head?, isBlank c = false := by
    rw [List.head?_append_of_ne_nil _ unbroken.present]
    exact unbroken.first
  have back : trimEnd (said ++ after) = said := by
    rw [trimEnd_append_blank said blank, ← trim_eq_trimEnd unbroken.first, unbroken.trimmed]
  rw [trim_eq_trimEnd (start _)]
  rcases ending with rfl | ⟨rest, rfl, feed⟩
  · rw [List.append_nil, back, stripComment_of_dashes (dashes_of_count unbroken.dashes),
      unbroken.trimmed]
  · have apart : (said ++ after).getLast? ≠ some '-' := by
      intro hc
      rw [List.getLast?_append] at hc
      rcases Option.or_eq_some_iff.mp hc with hc | ⟨-, hc⟩
      · exact not_mem_of_blank blank (by decide) (List.mem_of_getLast? hc)
      · exact unbroken.noDash hc
    have kept : trimEnd (said ++ (after ++ '-' :: '-' :: rest)) =
        said ++ (after ++ '-' :: '-' :: trimEnd rest) := by
      have second := trimEnd_append_cons (by decide : isBlank '-' = false) [] rest
      rw [List.nil_append, List.nil_append] at second
      rw [← List.append_assoc, trimEnd_append_cons (by decide), second, List.append_assoc]
    have oneLine : '\n' ∉ trimEnd rest :=
      fun hc => feed ((List.rdropWhile_prefix isBlank rest).subset hc)
    rw [kept, stripComment_padded (dashes_of_count unbroken.dashes) blank
      (Or.inr ⟨apart, _, rfl, oneLine⟩), trim_eq_trimEnd (start after), back]

/-- A body that reading leaves in one piece. -/
structure Compact (t : Text) : Prop extends Unbroken t where
  noColon : ':' ∉ t

theorem compact_of_solid {t : Text} (solid : Solid t) (noColon : ':' ∉ t)
    (dashes : t.count '-' ≤ 1) (noDash : t.getLast? ≠ some '-') : Compact t where
  present := solid.1
  first := fun c hc => solid.2 c (List.mem_of_mem_head? hc)
  last := fun c hc => solid.2 c (List.mem_of_getLast? hc)
  dashes := dashes
  noDash := noDash
  noColon := noColon

theorem compact_of_no_dash {t : Text} (solid : Solid t) (noColon : ':' ∉ t) (noDash : '-' ∉ t) :
    Compact t := by
  apply compact_of_solid solid noColon
  · rw [List.count_eq_zero.mpr noDash]
    exact Nat.zero_le 1
  · exact fun hc => noDash (List.mem_of_getLast? hc)

theorem Compact.behind {s middle t : Text} (solid : Solid s) (noDash : '-' ∉ s ++ middle)
    (noColon : ':' ∉ s ++ middle) (compact : Compact t) : Compact (s ++ (middle ++ t)) where
  toUnbroken := compact.toUnbroken.behind solid noDash
  noColon := by
    rw [← List.append_assoc, List.mem_append, not_or]
    exact ⟨noColon, compact.noColon⟩

section Headed

variable {said body : Text} {label : Option Text} (headed : Headed said label body)
  (compact : Compact body)

include headed compact

theorem Headed.unbroken : Unbroken said := by
  cases headed with
  | bare => exact compact.toUnbroken
  | @label name gap pad _ identifier before after =>
    have noDash : '-' ∉ name ++ (gap ++ ':' :: pad) := by
      simp only [List.mem_append, List.mem_cons, not_or]
      exact ⟨not_mem_of_isIdentifier identifier (by decide),
        not_mem_of_blank before (by decide), by decide, not_mem_of_blank after (by decide)⟩
    have whole := compact.toUnbroken.behind (piece_of_isIdentifier identifier).1 noDash
    rw [List.append_assoc, List.cons_append] at whole
    exact whole

theorem Headed.splitLabel : splitLabel said = (label, body) := by
  cases headed with
  | bare => exact splitLabel_of_not_mem compact.noColon
  | @label name gap pad _ identifier before after =>
    have solid : Solid name := (piece_of_isIdentifier identifier).1
    have front : trim (name ++ gap) = name := trim_padded solid (List.all_nil ..) before
    have rest : trim (pad ++ body) = body := (trim_blank_append pad after body).trans compact.trimmed
    have cut : cutAt? ':' (name ++ (gap ++ ':' :: (pad ++ body))) = some (name ++ gap, pad ++ body) := by
      refine cutAt?_eq_some.mpr ⟨?_, by simp⟩
      rw [List.mem_append, not_or]
      exact ⟨not_mem_of_isIdentifier identifier (by decide), not_mem_of_blank before (by decide)⟩
    simp only [Statement.splitLabel, cut, front, rest, identifier, if_true]

end Headed

/-- A line is read as it is spoken. -/
theorem parts_of_spoken {line : SourceLine} {label : Option Text} {body : Text}
    (spoken : Spoken line.text label body) (compact : Compact body) :
    clean line.text ≠ [] ∧ line.label = label ∧ line.body = body := by
  obtain ⟨before, said, after, comment, whole, front, back, ending, headed⟩ := spoken
  have unbroken := headed.unbroken compact
  have cleaned : clean line.text = said := by
    rw [clean, whole, trim_blank_append before front]
    exact stripped_of_unbroken unbroken back ending
  rw [SourceLine.label, SourceLine.body, cleaned, headed.splitLabel compact]
  exact ⟨unbroken.present, rfl, rfl⟩

end Statement

end Anem
