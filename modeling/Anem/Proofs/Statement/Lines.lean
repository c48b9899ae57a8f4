import Mathlib.Data.List.Basic
import Anem.Proofs.Journal
import Anem.Statement

/-!
What a source line comes to: `Reading` lists the cases once, and the facts
about a line are read off them. Its statements keep its number, and it
reports at most one fault, which only a missing instruction makes fatal.
-/
namespace Anem

namespace SourceLine

/-- The label in front of the line. -/
def label (line : SourceLine) : Option Text :=
  (Statement.splitLabel (Statement.clean line.text)).1

def body (line : SourceLine) : Text :=
  (Statement.splitLabel (Statement.clean line.text)).2

def mnemonic (line : SourceLine) : Text :=
  Text.firstWord line.body

/-- The one instruction that no line may have: the machine cannot multiply and
add. -/
def isMissing (line : SourceLine) : Bool :=
  line.mnemonic = "MADD".toList

theorem isMissing_iff {line : SourceLine} :
    line.isMissing = true ↔ line.mnemonic = "MADD".toList := by
  rw [isMissing, decide_eq_true_iff]

/-- The fault of a pseudo-instruction that is not expanded, with its line. -/
def fault? (line : SourceLine) : Option (Nat × Fault) :=
  match Pseudo.Kind.ofName? line.mnemonic with
  | some kind =>
    match Pseudo.read kind line.body with
    | .ok _ => none
    | .error cause => some (line.number, cause)
  | none =>
    if line.mnemonic = "NOP".toList ∧ line.body ≠ "NOP".toList then
      some (line.number, .malformedPseudo line.body)
    else none

theorem mnemonic_of_blank {line : SourceLine} (empty : Statement.clean line.text = []) :
    line.mnemonic = [] := by
  rw [mnemonic, body, empty]
  rfl

theorem mnemonic_of_alone {line : SourceLine} (alone : line.body = "NOP".toList) :
    line.mnemonic = "NOP".toList := by
  rw [mnemonic, alone]
  decide

theorem isMissing_of_pseudo {line : SourceLine} {kind : Pseudo.Kind}
    (named : Pseudo.Kind.ofName? line.mnemonic = some kind) : line.isMissing = false := by
  rw [Bool.eq_false_iff]
  intro missing
  rw [isMissing_iff.mp missing] at named
  cases named

end SourceLine

namespace Pseudo

theorem isFatal_of_toWord {lowest value : Int} {cause : Fault}
    (h : toWord lowest value = .error cause) : cause.isFatal = false := by
  unfold toWord at h
  split at h
  · cases h
    rfl
  · cases h

theorem isFatal_of_map {α β : Type} {f : α → β} {outcome : Except Fault α} {cause : Fault}
    (plain : ∀ other, outcome = .error other → other.isFatal = false)
    (h : outcome.map f = .error cause) : cause.isFatal = false := by
  cases outcome with
  | ok value => cases h
  | error other =>
    cases h
    exact plain cause rfl

/-- No pseudo-instruction ends a run by its operands. -/
theorem isFatal_of_read {kind : Kind} {body : Text} {cause : Fault}
    (h : read kind body = .error cause) : cause.isFatal = false := by
  cases kind with
  | liw =>
    simp only [read] at h
    repeat' split at h
    · exact isFatal_of_map (fun _ => isFatal_of_toWord) h
    · cases h
      rfl
    · cases h
      rfl
  | move =>
    simp only [read] at h
    repeat' split at h
    · cases h
    · cases h
      rfl
    · cases h
      rfl
  | lhi | llo =>
    simp only [read] at h
    split at h
    · exact isFatal_of_map (fun _ => isFatal_of_toWord) h
    · cases h
      rfl

end Pseudo

theorem SourceLine.isFatal_of_fault? {line : SourceLine} {n : Nat} {cause : Fault}
    (h : line.fault? = some (n, cause)) : cause.isFatal = false := by
  unfold fault? at h
  split at h
  · split at h
    · cases h
    · rename_i read
      cases h
      exact Pseudo.isFatal_of_read read
  · split at h
    · cases h
      rfl
    · cases h

namespace Statement

/-- A text has no label, or a name before its first colon. -/
theorem splitLabel_cases (t : Text) : splitLabel t = (none, t) ∨
    ∃ front rest, t = front ++ ':' :: rest ∧ Text.isIdentifier (Text.trim front) = true ∧
      splitLabel t = (some (Text.trim front), Text.trim rest) := by
  rw [splitLabel]
  split
  · rename_i front rest found
    by_cases identifier : Text.isIdentifier (Text.trim front) = true
    · right
      rw [if_pos identifier]
      exact ⟨front, rest, (Text.cutAt?_eq_some.mp found).2, identifier, rfl⟩
    · rw [if_neg identifier]
      exact Or.inl rfl
  · exact Or.inl rfl

/-- What a line can come to. -/
inductive Reading (line : SourceLine) : Traced (List Statement) → Prop where
  | blank (empty : clean line.text = []) : Reading line (.silent [])
  | nothing (alone : line.body = "NOP".toList) :
    Reading line (.silent [⟨line.number, line.label, noOperation⟩])
  | crowded (named : line.mnemonic = "NOP".toList) (more : line.body ≠ "NOP".toList) :
    Reading line ⟨[], #[.error line.number (.malformedPseudo line.body)]⟩
  | expanded {kind : Pseudo.Kind} {pseudo : Pseudo}
    (named : Pseudo.Kind.ofName? line.mnemonic = some kind)
    (read : Pseudo.read kind line.body = .ok pseudo) :
    Reading line ((labelAlone line.number line.mnemonic line.label).andThen fun front =>
      .silent (front ++ pseudo.expand.map fun text => ⟨line.number, none, text⟩))
  | refused {kind : Pseudo.Kind} {cause : Fault}
    (named : Pseudo.Kind.ofName? line.mnemonic = some kind)
    (read : Pseudo.read kind line.body = .error cause) :
    Reading line ((labelAlone line.number line.mnemonic line.label).andThen fun front =>
      ⟨front, #[.error line.number cause]⟩)
  | missing (named : line.isMissing = true) :
    Reading line ⟨[], #[.fatal line.number (.unimplemented "MADD".toList)]⟩
  | plain (present : clean line.text ≠ []) (pseudo : Pseudo.Kind.ofName? line.mnemonic = none)
    (noNop : line.mnemonic ≠ "NOP".toList) (known : line.isMissing = false) :
    Reading line (.silent [⟨line.number, line.label, line.body⟩])

theorem reading_ofLine (line : SourceLine) : Reading line (ofLine line) := by
  by_cases empty : clean line.text = []
  · rw [ofLine, if_pos (by rw [empty]; rfl)]
    exact .blank empty
  have parts : splitLabel (clean line.text) = (line.label, line.body) := by
    rw [SourceLine.label, SourceLine.body]
  have word : Text.firstWord line.body = line.mnemonic := rfl
  simp only [ofLine, List.isEmpty_eq_false_iff.mpr empty, parts, word, Bool.false_eq_true, if_false]
  cases named : Pseudo.Kind.ofName? line.mnemonic with
  | some kind =>
    cases read : Pseudo.read kind line.body with
    | ok pseudo =>
      simp only [expansion, read]
      exact .expanded named read
    | error cause =>
      simp only [expansion, read, List.append_nil]
      exact .refused named read
  | none =>
    simp only
    by_cases nop : line.mnemonic = "NOP".toList
    · rw [if_pos nop]
      by_cases alone : line.body = "NOP".toList
      · rw [if_pos alone]
        exact .nothing alone
      · rw [if_neg alone]
        exact .crowded nop alone
    · rw [if_neg nop]
      by_cases madd : line.mnemonic = "MADD".toList
      · rw [if_pos madd]
        exact .missing (SourceLine.isMissing_iff.mpr madd)
      · rw [if_neg madd]
        exact .plain empty named nop (Bool.eq_false_iff.mpr (mt SourceLine.isMissing_iff.mp madd))

section Reading

variable {line : SourceLine} {t : Traced (List Statement)}

theorem mem_labelAlone {n : Nat} {mnemonic : Text} {label : Option Text} {s : Statement}
    (h : s ∈ (labelAlone n mnemonic label).value) :
    ∃ name, label = some name ∧ s = ⟨n, some name, []⟩ := by
  cases label with
  | none => cases h
  | some name => exact ⟨name, rfl, List.mem_singleton.mp h⟩

theorem origin_labelAlone {n : Nat} {mnemonic : Text} {label : Option Text} :
    ∀ s ∈ (labelAlone n mnemonic label).value, s.origin = n := by
  intro s hs
  obtain ⟨name, -, rfl⟩ := mem_labelAlone hs
  rfl

/-- Every statement of a line keeps its number. -/
theorem Reading.origin (reading : Reading line t) : ∀ s ∈ t.value, s.origin = line.number := by
  cases reading with
  | blank | crowded | missing => simp [Traced.silent]
  | nothing | plain => simp [Traced.silent]
  | expanded named read =>
    intro s hs
    rw [Traced.value_andThen] at hs
    rcases List.mem_append.mp hs with hs | hs
    · exact origin_labelAlone s hs
    · obtain ⟨text, -, rfl⟩ := List.mem_map.mp hs
      rfl
  | refused named read =>
    intro s hs
    simp only [Traced.value_andThen] at hs
    exact origin_labelAlone s hs

theorem note_labelAlone {n : Nat} {mnemonic : Text} {label : Option Text} :
    ∀ e ∈ (labelAlone n mnemonic label).events.toList, ∃ message, e = .debug message := by
  cases label with
  | none => simp [labelAlone, Traced.silent]
  | some label => simp [labelAlone]

/-- A line reports its fault and no other. -/
theorem Reading.errors (reading : Reading line t) :
    t.events.toList.filterMap Event.error? = line.fault?.toList := by
  -- Only the last event of a line can be an error; those before note its label.
  have notes : (labelAlone line.number line.mnemonic line.label).events.toList.filterMap
      Event.error? = [] := by
    rw [List.filterMap_eq_nil_iff]
    intro e he
    obtain ⟨message, rfl⟩ := note_labelAlone e he
    rfl
  cases reading with
  | blank empty =>
    rw [SourceLine.fault?, SourceLine.mnemonic_of_blank empty]
    rfl
  | nothing alone =>
    rw [SourceLine.fault?, SourceLine.mnemonic_of_alone alone, alone]
    rfl
  | crowded named more =>
    have fault : line.fault? = some (line.number, .malformedPseudo line.body) := by
      rw [SourceLine.fault?, named]
      exact if_pos ⟨rfl, more⟩
    rw [fault]
    rfl
  | expanded named read =>
    have fault : line.fault? = none := by
      simp only [SourceLine.fault?, named, read]
    rw [fault, Traced.events_andThen, Array.toList_append, List.filterMap_append, notes]
    rfl
  | @refused kind cause named read =>
    have fault : line.fault? = some (line.number, cause) := by
      simp only [SourceLine.fault?, named, read]
    rw [fault, Traced.events_andThen, Array.toList_append, List.filterMap_append, notes]
    rfl
  | missing named =>
    rw [SourceLine.fault?, SourceLine.isMissing_iff.mp named]
    rfl
  | plain present pseudo noNop known =>
    have fault : line.fault? = none := by
      rw [SourceLine.fault?, pseudo]
      exact if_neg fun h => noNop h.1
    rw [fault]
    rfl

/-- An event of a line is a note or an error, unless an instruction is missing. -/
theorem Reading.event (reading : Reading line t) {e : Event} (he : e ∈ t.events.toList) :
    (∃ message, e = .debug message) ∨ (∃ cause, e = .error line.number cause) ∨
      line.isMissing = true ∧ e = .fatal line.number (.unimplemented "MADD".toList) := by
  cases reading with
  | blank | nothing | plain => cases he
  | crowded => exact Or.inr (Or.inl ⟨_, List.mem_singleton.mp he⟩)
  | expanded =>
    rw [Traced.events_andThen, Array.toList_append, List.mem_append] at he
    rcases he with he | he
    · exact Or.inl (note_labelAlone e he)
    · cases he
  | refused =>
    rw [Traced.events_andThen, Array.toList_append, List.mem_append] at he
    rcases he with he | he
    · exact Or.inl (note_labelAlone e he)
    · exact Or.inr (Or.inl ⟨_, List.mem_singleton.mp he⟩)
  | missing named => exact Or.inr (Or.inr ⟨named, List.mem_singleton.mp he⟩)

theorem Reading.eq_of_missing (reading : Reading line t) (missing : line.isMissing = true) :
    t = ⟨[], #[.fatal line.number (.unimplemented "MADD".toList)]⟩ := by
  have madd := SourceLine.isMissing_iff.mp missing
  cases reading with
  | missing => rfl
  | blank empty =>
    rw [SourceLine.mnemonic_of_blank empty] at madd
    cases madd
  | nothing alone =>
    rw [SourceLine.mnemonic_of_alone alone] at madd
    cases madd
  | crowded named =>
    rw [named] at madd
    cases madd
  | expanded named | refused named =>
    rw [SourceLine.isMissing_of_pseudo named] at missing
    cases missing
  | plain present pseudo noNop known =>
    rw [known] at missing
    cases missing

end Reading

theorem value_ofLines (lines : List SourceLine) :
    (ofLines lines).value = lines.flatMap fun line => (ofLine line).value := by
  simp [ofLines, Traced.flatMap, List.flatMap_map]

theorem events_ofLines (lines : List SourceLine) :
    (ofLines lines).events.toList = lines.flatMap fun line => (ofLine line).events.toList := by
  simp [ofLines, Traced.flatMap, List.flatMap_map]

theorem errors_ofLines (lines : List SourceLine) :
    (ofLines lines).events.toList.filterMap Event.error? = lines.filterMap SourceLine.fault? := by
  have each : (fun line => (ofLine line).events.toList.filterMap Event.error?) =
      fun line => line.fault?.toList := by
    funext line
    exact (reading_ofLine line).errors
  rw [events_ofLines, List.filterMap_flatMap, each, List.filterMap_eq_flatMap_toList]

/-- Lines without a missing instruction go through. -/
theorem calm_ofLines {lines : List SourceLine} (known : ∀ line ∈ lines, line.isMissing = false) :
    ∀ e ∈ (ofLines lines).events.toList, e.isFatal = false := by
  intro e he
  rw [events_ofLines] at he
  obtain ⟨line, given, he⟩ := List.mem_flatMap.mp he
  rcases (reading_ofLine line).event he with ⟨message, rfl⟩ | ⟨cause, rfl⟩ | ⟨missing, -⟩
  · rfl
  · rfl
  · rw [known line given] at missing
    cases missing

theorem isWarning_ofLines {lines : List SourceLine} {e : Event}
    (he : e ∈ (ofLines lines).events.toList) : e.isWarning = false := by
  rw [events_ofLines] at he
  obtain ⟨line, -, he⟩ := List.mem_flatMap.mp he
  rcases (reading_ofLine line).event he with ⟨message, rfl⟩ | ⟨cause, rfl⟩ | ⟨-, rfl⟩
  · rfl
  · rfl
  · rfl

end Statement

end Anem
