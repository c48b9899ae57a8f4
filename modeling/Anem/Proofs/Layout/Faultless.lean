import Mathlib.Data.Finset.Card
import Mathlib.Data.Finset.Dedup
import Mathlib.Data.List.Induction
import Anem.Proofs.Layout.ClosedForm
import Anem.Proofs.Lists

namespace Anem.Layout

/-- Without a fault every instruction finds room. -/
theorem room_of_no_faults {before : List Statement} {s : Statement}
    (h : faults before s = []) (instruction : s.isInstruction = true) :
    position before < addressLimit := by
  rw [faults, List.map_eq_nil_iff, List.append_eq_nil_iff] at h
  have refused := h.2
  rw [refusal, Statement.isInstruction_iff.mp instruction] at refused
  by_cases room : position before < addressLimit
  · exact room
  · simp [room] at refused

/-- Without a fault the code is the instructions of the program. -/
theorem code_of_no_faults {statements : List Statement} (h : gather faults statements = []) :
    (ofStatements statements).value.code.map (fun item => (item.origin, item.text)) =
      (statements.filter Statement.isInstruction).map fun s => (s.origin, s.text) := by
  have spots := congrArg (List.map Prod.snd) (code_ofStatements statements)
  rw [List.map_map, map_gather] at spots
  refine spots.trans (.trans ?_ (flatMap_ite Statement.isInstruction _ statements))
  rw [← gather_const]
  apply gather_congr
  intro before s after split
  by_cases instruction : s.isInstruction = true
  · have room := room_of_no_faults (gather_eq_nil_iff.mp h _ _ _ split) instruction
    simp [placement, landing, instruction, room]
  · simp [placement, landing, instruction]

/-- Overlapping items and distinct addresses make up the code. -/
theorem card_add_overlaps (code : List Item) :
    (code.map (·.address)).toFinset.card + (overlaps code).length = code.length := by
  induction code using List.reverseRecOn with
  | nil => rfl
  | append_singleton code item ih =>
    have grown : ((code ++ [item]).map (·.address)).toFinset =
        insert item.address (code.map (·.address)).toFinset := by
      simp
    rw [grown, overlaps_append, List.length_append, List.length_append]
    -- A taken address is one more overlap, a free one is one more address.
    by_cases taken : item.address ∈ code.map (·.address)
    · rw [Finset.insert_eq_of_mem (List.mem_toFinset.mpr taken), if_pos taken]
      simp only [List.length_singleton]
      omega
    · rw [Finset.card_insert_of_notMem (mt List.mem_toFinset.mp taken), if_neg taken]
      simp only [List.length_singleton, List.length_nil]
      omega

theorem overlaps_of_nodup {code : List Item} (h : (code.map (·.address)).Nodup) :
    overlaps code = [] := by
  have counted := card_add_overlaps code
  rw [List.toFinset_card_of_nodup h, List.length_map] at counted
  apply List.eq_nil_of_length_eq_zero
  omega

/-- Instructions only, and no labels. -/
def Straight (statements : List Statement) : Prop :=
  ∀ s ∈ statements, s.label = none ∧ s.role = .instruction

/-- Without a move every instruction takes one place. -/
theorem position_append_still (before : List Statement) {run : List Statement}
    (still : ∀ s ∈ run, s.move? = none) :
    position (before ++ run) = position before + run.countP Statement.isInstruction := by
  induction run using List.reverseRecOn with
  | nil => rw [List.append_nil, List.countP_nil, Nat.add_zero]
  | append_singleton run s ih =>
    have front := ih fun t ht => still t (List.mem_append_left _ ht)
    have own := still s (by simp)
    have counted := s.isInstruction_iff
    rw [Statement.move?] at own
    rw [← List.append_assoc, position_append, front, next, List.countP_append,
      List.countP_singleton]
    cases role : s.role with
    | move address => simp [role] at own
    | instruction => rw [if_pos (counted.mpr role), Nat.add_assoc]
    | none | define name value | reject cause =>
      rw [if_neg (by simp [counted, role])]
      rfl

theorem position_of_still {before : List Statement} (still : ∀ s ∈ before, s.move? = none) :
    position before = before.countP Statement.isInstruction := by
  have place := position_append_still [] still
  rw [List.nil_append] at place
  exact place.trans (Nat.zero_add _)

theorem position_append_run (before : List Statement) {run : List Statement}
    (h : ∀ s ∈ run, s.role = .instruction) : position (before ++ run) = position before + run.length := by
  have still : ∀ s ∈ run, s.move? = none := fun s hs => by rw [Statement.move?, h s hs]
  have all : run.countP Statement.isInstruction = run.length :=
    List.countP_eq_length.mpr fun s hs => Statement.isInstruction_iff.mpr (h s hs)
  rw [position_append_still before still, all]

theorem position_of_straight {before : List Statement} (h : Straight before) :
    position before = before.length := by
  have here := position_append_run [] fun s hs => (h s hs).2
  rw [List.nil_append] at here
  exact here.trans (Nat.zero_add _)

theorem position_of_split {statements before after : List Statement} {s : Statement}
    (h : Straight statements) (fits : statements.length ≤ addressLimit)
    (split : statements = before ++ s :: after) :
    position before = before.length ∧ before.length < addressLimit := by
  constructor
  · apply position_of_straight
    intro t ht
    apply h
    rw [split]
    exact List.mem_append_left _ ht
  · rw [split, List.length_append, List.length_cons] at fits
    omega

/-- A straight program that fits into the address space has no fault. -/
theorem faults_of_straight {statements : List Statement} (h : Straight statements)
    (fits : statements.length ≤ addressLimit) : gather faults statements = [] := by
  rw [gather_eq_nil_iff]
  intro before s after split
  obtain ⟨label, role⟩ := h s (by simp [split])
  obtain ⟨here, room⟩ := position_of_split h fits split
  simp [faults, definitions, labelled, Statement.constant?, refusal, label, role, here, room, gather]

theorem addresses_of_straight {statements : List Statement} (h : Straight statements)
    (fits : statements.length ≤ addressLimit) :
    (ofStatements statements).value.code.map (·.address.toNat) =
      List.range statements.length := by
  have spots := congrArg (List.map Prod.fst) (code_ofStatements statements)
  rw [List.map_map, map_gather] at spots
  refine spots.trans ?_
  -- Each address is the count of the members before.
  rw [List.range_eq_range', ← gather_length]
  apply gather_congr
  intro before s after split
  obtain ⟨here, room⟩ := position_of_split h fits split
  have instruction := Statement.isInstruction_iff.mpr (h s (by simp [split])).2
  simp [placement, landing, here, instruction, room]

end Anem.Layout
