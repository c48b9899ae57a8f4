import Anem.Proofs.Image
import Anem.Proofs.Instruction.Grammar

/-!
Mnemonics of the floating point unit, which the machine lacks. The operands of a
line are read before its mnemonic is looked up. So such a line ends the run if
all its operands are legible, whatever they are; one with an operand that no
instruction could have is passed over like any malformed line.
-/
namespace Anem

open Text

namespace Text

theorem trim_trimStart (t : Text) : trim (trimStart t) = trim t := by
  have front : (t.takeWhile isBlank).all isBlank = true := List.all_takeWhile
  have same := trim_blank_append _ front (trimStart t)
  rw [trimStart, List.takeWhile_append_dropWhile] at same
  exact same.symm

theorem firstWord_eq (t : Text) : firstWord t = (cutWord (trim t)).1 := by
  have start : ∀ c ∈ (trimStart t).head?, isBlank c = false := by
    intro c hc
    have first := List.head?_dropWhile_not isBlank t
    rw [Option.mem_def, trimStart] at hc
    simpa [hc] using first
  obtain ⟨after, blank, whole⟩ := exists_tail start
  have ended : after.takeWhile (! isBlank ·) = [] := by
    rw [List.takeWhile_eq_nil_iff]
    intro present
    simp [List.all_eq_true.mp blank _ (List.getElem_mem present)]
  rw [firstWord, whole, trim_trimStart]
  simp only [cutWord, List.takeWhile_append, ended, List.append_nil]
  split
  · rename_i complete
    exact ((List.takeWhile_prefix _).eq_of_length complete).symm
  · rfl

end Text

theorem Operand.exists_mapM {pieces : List Text}
    (h : ∀ piece ∈ pieces, ∃ o, read? piece = some o) :
    ∃ operands, pieces.mapM read? = some operands := by
  induction pieces with
  | nil => exact ⟨[], rfl⟩
  | cons piece pieces ih =>
    obtain ⟨o, first⟩ := h piece List.mem_cons_self
    obtain ⟨operands, rest⟩ := ih fun p hp => h p (List.mem_cons_of_mem piece hp)
    exact ⟨o :: operands, mapM_eq_cons.mpr ⟨piece, pieces, rfl, first, rest⟩⟩

theorem Operand.exists_read?_of_mapM {pieces : List Text} {operands : List Operand}
    (h : pieces.mapM read? = some operands) : ∀ piece ∈ pieces, ∃ o, read? piece = some o := by
  induction operands generalizing pieces with
  | nil =>
    obtain rfl := mapM_eq_nil.mp h
    intro piece hp
    cases hp
  | cons o operands ih =>
    obtain ⟨first, rest, rfl, own, others⟩ := mapM_eq_cons.mp h
    intro piece hp
    rcases List.mem_cons.mp hp with rfl | hp
    · exact ⟨o, own⟩
    · exact ih others piece hp

/-- A line is a phrase that starts with its first word, or malformed. -/
theorem Phrase.read_cases (line : Text) :
    (∃ operands, read line = .ok ⟨(cutWord (trim line)).1, operands⟩) ∨
      read line = .error (.malformed (trim line)) := by
  simp only [read]
  split
  · exact Or.inr rfl
  · split
    · exact Or.inl ⟨_, rfl⟩
    · exact Or.inr rfl

namespace Instruction

/-- Every operand after the first word has the spelling of some operand. -/
def Legible (line : Text) : Prop :=
  ∃ pieces, Phrase.Written (trim line) (firstWord line) pieces ∧
    ∀ piece ∈ pieces, ∃ o, Operand.read? piece = some o

theorem solid_of_isFloatingPoint {m : Text} (h : isFloatingPoint m = true) : Solid m := by
  have all : ∀ m ∈ floatingPoint, Solid m := by decide
  exact all m (List.contains_iff_mem.mp h)

section Reserved

variable {line : Text} (reserved : isFloatingPoint (firstWord line) = true)

include reserved

/-- The operands of a reserved mnemonic are legible if the line is a phrase. -/
theorem legible_iff : Legible line ↔
    ∃ operands, Phrase.read (trim line) = .ok ⟨firstWord line, operands⟩ := by
  simp only [Phrase.read_eq_ok (trim_trim line)]
  constructor
  · rintro ⟨pieces, written, each⟩
    obtain ⟨operands, found⟩ := Operand.exists_mapM each
    exact ⟨operands, solid_of_isFloatingPoint reserved, pieces, written, found⟩
  · rintro ⟨operands, -, pieces, written, found⟩
    exact ⟨pieces, written, Operand.exists_read?_of_mapM found⟩

theorem parse_of_legible (legible : Legible line) :
    parse line = .error (.unimplemented ("floating point instruction ".toList ++ firstWord line)) := by
  obtain ⟨operands, found⟩ := (legible_iff reserved).mp legible
  simp only [parse, found, bind, Except.bind, reserved, if_true]
  rfl

theorem parse_of_illegible (illegible : ¬ Legible line) :
    parse line = .error (.malformed (trim line)) := by
  have refused : Phrase.read (trim line) = .error (.malformed (trim line)) := by
    have cases := Phrase.read_cases (trim line)
    rw [trim_trim, ← firstWord_eq] at cases
    exact cases.resolve_left (mt (legible_iff reserved).mpr illegible)
  simp only [parse, refused, bind, Except.bind]

end Reserved

end Instruction

theorem Traced.aborts_of_fatal {α : Type} {t : Traced α} {e : Event} (he : e ∈ t.events.toList)
    (fatal : e.isFatal = true) (j : Journal) : ∃ abort k, t.commit j = (.error abort, k) := by
  rcases absorbed : j.absorb t.events.toList with ⟨_ | abort, k⟩
  · have calm := (Journal.grown_of_absorb absorbed).calm e he
    rw [fatal] at calm
    cases calm
  · exact ⟨abort, k, Traced.commit_eq_error.mpr absorbed⟩

namespace Image

open Instruction (parse Legible)

/-- **A floating point mnemonic stops the run if its operands are legible.** Then
its line is unimplemented, and no code that holds it gives an image. Otherwise
the line is malformed, and its item is reported as an error after which the run
goes on. -/
theorem floating_point_stops {line : Text} (reserved : isFloatingPoint (firstWord line) = true) :
    (Legible line → parse line =
      .error (.unimplemented ("floating point instruction ".toList ++ firstWord line))) ∧
    (¬ Legible line → parse line = .error (.malformed (trim line))) ∧
    ∀ (layout : Layout) (item : Item), item ∈ layout.code → item.text = line →
      (Legible line → ∀ j, ∃ abort k, (ofLayout layout).commit j = (.error abort, k)) ∧
      (¬ Legible line → item.event (item.encode layout.symbols) =
        .error item.origin (.malformed (trim line))) := by
  refine ⟨Instruction.parse_of_legible reserved, Instruction.parse_of_illegible reserved, ?_⟩
  rintro layout item placed rfl
  constructor
  · intro legible j
    have outcome : item.encode layout.symbols =
        .error (.unimplemented ("floating point instruction ".toList ++ firstWord item.text)) := by
      rw [Item.encode, Instruction.parse_of_legible reserved legible]
      rfl
    have reported : item.event (item.encode layout.symbols) ∈ (ofLayout layout).events.toList := by
      rw [events_ofLayout]
      exact List.mem_map_of_mem placed
    apply Traced.aborts_of_fatal reported
    rw [outcome, Item.isFatal_event]
    rfl
  · intro illegible
    rw [Item.encode, Instruction.parse_of_illegible reserved illegible]
    rfl

/-- A load into the floating point unit, between two lines that have a word. -/
def floatingLoad : Layout :=
  ⟨.empty, [⟨0, 1, "HAB".toList⟩, ⟨1, 2, "FMLD $3, %A%".toList⟩, ⟨2, 3, "HAB".toList⟩]⟩

theorem floating_point_stops_load :
    isFloatingPoint (firstWord "FMLD $3, %A%".toList) = true ∧ Legible "FMLD $3, %A%".toList ∧
      ∃ abort k, (ofLayout floatingLoad).commit (.new .off) = (.error abort, k) := by
  have reserved : isFloatingPoint (firstWord "FMLD $3, %A%".toList) = true := by decide +kernel
  have legible : Legible "FMLD $3, %A%".toList := by
    rw [Instruction.legible_iff reserved]
    exact ⟨[.register 3, .immediate (.symbol ['A'] .whole)], by decide +kernel⟩
  obtain ⟨-, -, placed⟩ := floating_point_stops reserved
  have stops := placed floatingLoad ⟨1, 2, "FMLD $3, %A%".toList⟩ (by decide) rfl
  exact ⟨reserved, legible, stops.1 legible _⟩

/-- A load of a number that is no operand of any instruction. -/
def fractionLoad : Layout := ⟨.empty, [⟨0, 1, "FMLD 2.5".toList⟩]⟩

/-- A floating point mnemonic need not stop the run. -/
theorem floating_point_passed_over :
    isFloatingPoint (firstWord "FMLD 2.5".toList) = true ∧
      parse "FMLD 2.5".toList = .error (.malformed "FMLD 2.5".toList) ∧
      ∃ k, (ofLayout fractionLoad).commit (.new .off) = (.ok [], k) ∧
        k.errors = 1 ∧ k.fatal = false := by
  have calm : ∀ e ∈ (ofLayout fractionLoad).events.toList, e.isFatal = false := by decide +kernel
  obtain ⟨k, committed⟩ := Traced.commit_of_calm (j := .new .off) rfl calm
  have empty : (ofLayout fractionLoad).value = [] := by decide +kernel
  have grown := Journal.grown_of_absorb (Traced.commit_eq_ok.mp committed).2
  refine ⟨by decide +kernel, by decide +kernel, k, empty ▸ committed, ?_, grown.fatal⟩
  rw [grown.errors]
  decide +kernel

end Image

end Anem
