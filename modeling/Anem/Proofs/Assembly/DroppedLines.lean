import Anem.Proofs.Assembly.Expansion
import Anem.Proofs.Lists

namespace Anem

namespace SourceLine

/-- What a faulty line leaves: its label, if the pseudo-instruction expands. -/
def remnant (line : SourceLine) : List Statement :=
  match Pseudo.Kind.ofName? line.mnemonic, line.label with
  | some _, some name => [⟨line.number, some name, []⟩]
  | _, _ => []

theorem remnant_of_pseudo {line : SourceLine} {kind : Pseudo.Kind}
    (named : Pseudo.Kind.ofName? line.mnemonic = some kind) :
    line.remnant = (Statement.labelAlone line.number line.mnemonic line.label).value := by
  rw [remnant, named]
  cases line.label with
  | none => rfl
  | some name => rfl

theorem number_of_fault? {line : SourceLine} {error : Nat × Fault}
    (fault : line.fault? = some error) : error.1 = line.number := by
  unfold fault? at fault
  repeat' split at fault
  all_goals cases fault
  all_goals rfl

end SourceLine

namespace Statement

section Reading

variable {line : SourceLine} {t : Traced (List Statement)}

/-- A faulty line gives at most the statement of its label. -/
theorem Reading.value_of_fault (reading : Reading line t) {error : Nat × Fault}
    (fault : line.fault? = some error) : t.value = line.remnant := by
  have reported := reading.errors
  rw [fault] at reported
  cases reading with
  | blank | nothing | missing | plain => cases reported
  | crowded named =>
    rw [SourceLine.remnant, named]
    rfl
  | refused named =>
    rw [SourceLine.remnant_of_pseudo named]
    rfl
  | expanded named read =>
    simp only [SourceLine.fault?, named, read] at fault
    cases fault

/-- A line without a fault gives a statement, unless it is blank. -/
theorem Reading.value_ne_nil (reading : Reading line t) (present : clean line.text ≠ [])
    (known : line.isMissing = false) (faultless : line.fault? = none) : t.value ≠ [] := by
  have reported := reading.errors
  rw [faultless] at reported
  cases reading with
  | blank empty => exact absurd empty present
  | nothing | plain => exact List.cons_ne_nil _ _
  | crowded => cases reported
  | missing missing =>
    rw [known] at missing
    cases missing
  | refused named read =>
    simp only [SourceLine.fault?, named, read] at faultless
    cases faultless
  | @expanded kind pseudo named read =>
    intro empty
    exact pseudo.expand_ne_nil (List.map_eq_nil_iff.mp (List.append_eq_nil_iff.mp empty).2)

theorem Reading.value_of_blank (reading : Reading line t) (empty : clean line.text = []) :
    t.value = [] := by
  have word := SourceLine.mnemonic_of_blank empty
  cases reading with
  | blank | crowded | missing => rfl
  | nothing alone =>
    rw [SourceLine.mnemonic_of_alone alone] at word
    cases word
  | expanded named | refused named =>
    rw [word] at named
    cases named
  | plain present => exact absurd empty present

end Reading

section Whole

variable {source : Text} {line : SourceLine} (given : line ∈ SourceLine.ofSource source)

include given

theorem statements_of_line :
    ((ofLines (SourceLine.ofSource source)).value.filter fun s => s.origin = line.number) =
      (ofLine line).value := by
  have distinct := (SourceLine.ascending_ofSource source).imp Nat.ne_of_lt
  rw [value_ofLines]
  exact filter_flatMap_of_distinct (fun l => (reading_ofLine l).origin) distinct given

theorem complaints_of_line :
    ((((SourceLine.ofSource source).filterMap SourceLine.fault?).map Journal.complaint).filter
      fun r => r.line = some line.number) = (line.fault?.map Journal.complaint).toList := by
  have distinct : (SourceLine.ofSource source).Pairwise
      fun a b => some a.number ≠ some b.number := by
    apply (SourceLine.ascending_ofSource source).imp
    intro a b less same
    exact absurd (Option.some.inj same) (Nat.ne_of_lt less)
  have marked : ∀ l : SourceLine, ∀ r ∈ (l.fault?.map Journal.complaint).toList,
      r.line = some l.number := by
    intro l r hr
    obtain ⟨error, fault, rfl⟩ := Option.map_eq_some_iff.mp (Option.mem_toList.mp hr)
    exact congrArg some (SourceLine.number_of_fault? fault)
  rw [List.map_filterMap, List.filterMap_eq_flatMap_toList]
  exact filter_flatMap_of_distinct marked distinct given

end Whole

/-- **A line gives statements or reports its fault.** When all lines of a source
go through, a blank line gives nothing and reports nothing. Any other line gives
statements and reports nothing if it has no fault. If it has one it reports that
one alone, and its only statement is that of its label where the
pseudo-instruction expands. -/
theorem lines_accounted {source : Text} {v : Verbosity} {statements : List Statement} {k : Journal}
    (ok : (ofLines (SourceLine.ofSource source)).commit (.new v) = (.ok statements, k))
    {line : SourceLine} (given : line ∈ SourceLine.ofSource source) :
    let own := statements.filter fun s => s.origin = line.number
    let errors := k.complaints.filter fun r => r.line = some line.number
    (clean line.text = [] → own = [] ∧ errors = []) ∧
    (clean line.text ≠ [] → line.fault? = none → own ≠ [] ∧ errors = []) ∧
    (∀ error, line.fault? = some error →
      errors = [⟨.error, some line.number, error.2.message⟩] ∧ own = line.remnant) := by
  obtain ⟨rfl, absorbed⟩ := Traced.commit_eq_ok.mp ok
  have grown := Journal.grown_of_absorb absorbed
  have recorded : k.complaints =
      ((SourceLine.ofSource source).filterMap SourceLine.fault?).map Journal.complaint := by
    rw [grown.complaints, errors_ofLines]
    rfl
  have known : line.isMissing = false := by
    rw [Bool.eq_false_iff]
    intro missing
    have event : .fatal line.number (.unimplemented "MADD".toList) ∈
        (ofLines (SourceLine.ofSource source)).events.toList := by
      rw [events_ofLines, List.mem_flatMap]
      refine ⟨line, given, ?_⟩
      rw [(reading_ofLine line).eq_of_missing missing]
      exact List.mem_singleton_self _
    cases grown.calm _ event
  have reading := reading_ofLine line
  rw [recorded, statements_of_line given, complaints_of_line given]
  refine ⟨?_, ?_, ?_⟩
  · intro empty
    have faultless : line.fault? = none := by
      rw [SourceLine.fault?, SourceLine.mnemonic_of_blank empty]
      rfl
    rw [faultless]
    exact ⟨reading.value_of_blank empty, rfl⟩
  · intro present faultless
    rw [faultless]
    exact ⟨reading.value_ne_nil present known faultless, rfl⟩
  · intro error fault
    rw [fault]
    refine ⟨?_, reading.value_of_fault fault⟩
    rw [← SourceLine.number_of_fault? fault]
    rfl

/-- A line with its operand amiss, between a blank line and one without fault. -/
def crowdedNop : Text := "-- nothing\nL: NOP 3\nHAB\n".toList

theorem lines_accounted_crowded :
    ∃ statements k, (ofLines (SourceLine.ofSource crowdedNop)).commit (.new .off) =
        (.ok statements, k) ∧
      ⟨2, "L: NOP 3".toList⟩ ∈ SourceLine.ofSource crowdedNop ∧
      (statements.filter fun s => s.origin = 2) = [] ∧
      (k.complaints.filter fun r => r.line = some 2) =
        [⟨.error, some 2, (Fault.malformedPseudo "NOP 3".toList).message⟩] := by
  have calm : ∀ e ∈ (ofLines (SourceLine.ofSource crowdedNop)).events.toList,
      e.isFatal = false := by decide +kernel
  obtain ⟨k, ok⟩ := Traced.commit_of_calm (j := .new .off) rfl calm
  have given : ⟨2, "L: NOP 3".toList⟩ ∈ SourceLine.ofSource crowdedNop := by decide +kernel
  have fault : SourceLine.fault? ⟨2, "L: NOP 3".toList⟩ =
      some (2, .malformedPseudo "NOP 3".toList) := by decide +kernel
  obtain ⟨-, -, faulty⟩ := lines_accounted ok given
  obtain ⟨errors, own⟩ := faulty _ fault
  exact ⟨_, k, ok, given, own, errors⟩

def headless : Text := "L: LIW $1".toList

/-- A line with a fault need not be dropped as a whole. -/
theorem label_of_faulty_line_kept :
    ∃ statements k, (ofLines (SourceLine.ofSource headless)).commit (.new .off) =
        (.ok statements, k) ∧
      SourceLine.ofSource headless = [⟨1, headless⟩] ∧ clean headless ≠ [] ∧
      (statements.filter fun s => s.origin = 1) = [⟨1, some ['L'], []⟩] ∧
      (k.complaints.filter fun r => r.line = some 1) =
        [⟨.error, some 1, (Fault.malformedPseudo "LIW $1".toList).message⟩] := by
  have calm : ∀ e ∈ (ofLines (SourceLine.ofSource headless)).events.toList,
      e.isFatal = false := by decide +kernel
  obtain ⟨k, ok⟩ := Traced.commit_of_calm (j := .new .off) rfl calm
  refine ⟨_, k, ok, by decide +kernel, by decide +kernel, by decide +kernel, ?_⟩
  rw [(Journal.grown_of_absorb (Traced.commit_eq_ok.mp ok).2).complaints, errors_ofLines]
  decide +kernel

end Statement

end Anem
