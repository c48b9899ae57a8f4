import Anem.Proofs.Assembly.Lossless

namespace Anem

namespace Layout

/-- The last address has just been taken: since then there was neither an
instruction nor a move. -/
def Full (before : List Statement) : Prop :=
  ∃ front last quiet, before = front ++ last :: quiet ∧ last.isInstruction = true ∧
    position front = 0xFFFF ∧ ∀ s ∈ quiet, s.isInstruction = false ∧ s.move? = none

/-- No instruction comes before the next move. -/
def Idle (after : List Statement) : Prop :=
  ∀ run s rest, after = run ++ s :: rest → (∀ t ∈ run, t.move? = none) → s.isInstruction = false

/-- A place behind the last address is reached by an instruction at it. -/
theorem full_of_position {before : List Statement} (h : position before = addressLimit) :
    Full before := by
  induction before using List.reverseRecOn with
  | nil => cases h
  | append_singleton before s ih =>
    have counted := s.isInstruction_iff
    rw [position_append, next] at h
    cases role : s.role with
    | move address =>
      have below := Statement.lt_of_move role
      simp only [role] at h
      omega
    | instruction =>
      simp only [role] at h
      refine ⟨before, s, [], rfl, counted.mpr role, Nat.succ.inj h, ?_⟩
      intro t ht
      cases ht
    | none | define name value | reject cause =>
      simp only [role] at h
      obtain ⟨front, last, quiet, rfl, instruction, place, still⟩ := ih h
      refine ⟨front, last, quiet ++ [s], by simp, instruction, place, ?_⟩
      intro t ht
      rcases List.mem_append.mp ht with ht | ht
      · exact still t ht
      · rw [List.mem_singleton.mp ht]
        exact ⟨by simp [← Bool.not_eq_true, counted, role], by rw [Statement.move?, role]⟩

theorem get?_of_new_label {before : List Statement} {s : Statement} {name : Text}
    (new : (ofStatements before).value.symbols.get? name = none) (label : s.label = some name)
    (after : List Statement) :
    (ofStatements (before ++ s :: after)).value.symbols.get? name =
      some ((min (position before) addressLimit : Nat) : Int) := by
  rw [get?_ofStatements] at new
  have own : labelled (position before) s.label =
      [(name, Int.ofNat (min (position before) addressLimit))] := by
    rw [labelled, label]
    rfl
  rw [get?_ofStatements, gather_append, gather, List.append_nil, definitions, own,
    List.lookup_append, new, Option.none_or]
  simp

section NoFaults

variable {statements before after : List Statement} (noFaults : gather faults statements = [])

include noFaults

theorem position_le_of_no_faults (split : statements = before ++ after) :
    position before ≤ addressLimit := by
  induction before using List.reverseRecOn generalizing after with
  | nil => exact Nat.zero_le _
  | append_singleton before s ih =>
    rw [List.append_assoc, List.singleton_append] at split
    have front := ih split
    rw [position_append, next]
    cases role : s.role with
    | move address => exact Nat.le_of_lt (Statement.lt_of_move role)
    | instruction =>
      have instruction := Statement.isInstruction_iff.mpr role
      exact room_of_no_faults (gather_eq_nil_iff.mp noFaults _ _ _ split) instruction
    | none | define name value | reject cause => exact front

/-- Without a fault nothing is placed behind the last address. -/
theorem idle_of_position (split : statements = before ++ after)
    (full : position before = addressLimit) : Idle after := by
  intro run s rest found still
  have here : statements = before ++ run ++ s :: rest := by
    rw [split, found, List.append_assoc]
  rw [← Bool.not_eq_true]
  intro instruction
  have room := room_of_no_faults (gather_eq_nil_iff.mp noFaults _ _ _ here) instruction
  have grown := position_append_still before still
  omega

theorem get?_of_label {s : Statement} {name : Text} (split : statements = before ++ s :: after)
    (label : s.label = some name) :
    (ofStatements statements).value.symbols.get? name = some (position before : Int) := by
  have place := position_le_of_no_faults noFaults split
  have new : (ofStatements before).value.symbols.get? name = none := by
    have faultless := gather_eq_nil_iff.mp noFaults _ _ _ split
    rw [faults, List.map_eq_nil_iff, List.append_eq_nil_iff, definitions, labelled, label,
      Option.map_some, Option.toList_some, List.cons_append, gather, List.append_eq_nil_iff,
      List.append_nil] at faultless
    have free := faultless.1.1
    rw [clash] at free
    split at free
    · cases free
    · rename_i unknown
      rw [get?_ofStatements]
      exact Option.not_isSome_iff_eq_none.mp unknown
  rw [split, get?_of_new_label new label, Nat.min_eq_left place]

end NoFaults

end Layout

namespace Assembly

/-- **Labels stay inside the address space, or mark its end.** In a run without
an error every label has a value. It is an address, unless the label stands
behind the last address: then an instruction has just taken that one, and none
follows before the next move. -/
theorem labels_within_space {source : Text} {v : Verbosity} {a : Assembly} {k : Journal}
    (ok : assemble source (.new v) = (.ok a, k)) (clean : k.errors = 0)
    {before after : List Statement} {s : Statement} {name : Text}
    (split : a.statements = before ++ s :: after) (label : s.label = some name) :
    ∃ value : Nat, a.layout.symbols.get? name = some (value : Int) ∧
      (value ≤ 0xFFFF ∨ value = 0x10000 ∧ Layout.Full before ∧ Layout.Idle (s :: after)) := by
  obtain ⟨noFaults, -⟩ := no_errors_of_clean ok clean
  obtain ⟨rfl, -⟩ := assemble_eq_ok.mp ok
  have place : Layout.position before ≤ 0x10000 := Layout.position_le_of_no_faults noFaults split
  refine ⟨Layout.position before, Layout.get?_of_label noFaults split label, ?_⟩
  by_cases full : Layout.position before = 0x10000
  · exact Or.inr ⟨full, Layout.full_of_position full, Layout.idle_of_position noFaults split full⟩
  · exact Or.inl (by omega)

/-- A label behind an instruction at the last address. -/
def endMark : Text := ".ADDRESS 0xFFFF\nHAB\nEND:\n".toList

theorem assemble_endMark :
    ∃ k, assemble endMark (.new .off) = (.ok (trace endMark).value, k) ∧ k.errors = 0 := by
  have calm : ∀ e ∈ (trace endMark).events.toList, e.isFatal = false := by decide +kernel
  obtain ⟨k, ok⟩ := assemble_of_calm (j := .new .off) rfl calm
  refine ⟨k, ok, ?_⟩
  rw [(grown_of_assemble ok).errors]
  decide +kernel

/-- The value of a label need not be an address. -/
theorem label_behind_last_address :
    ∃ a k, assemble endMark (.new .off) = (.ok a, k) ∧ k.errors = 0 ∧
      ⟨3, some "END".toList, []⟩ ∈ a.statements ∧
      ∃ value, a.layout.symbols.get? "END".toList = some value ∧ ¬ (0 ≤ value ∧ value ≤ 0xFFFF) := by
  obtain ⟨k, ok, clean⟩ := assemble_endMark
  refine ⟨_, k, ok, clean, by decide +kernel, 0x10000, by decide +kernel, by decide⟩

theorem labels_within_space_endMark :
    ∃ a k, assemble endMark (.new .off) = (.ok a, k) ∧ k.errors = 0 ∧
      a.layout.symbols.get? "END".toList = some 0x10000 ∧
      Layout.Full [⟨1, none, ".ADDRESS 0XFFFF".toList⟩, ⟨2, none, "HAB".toList⟩] ∧
      Layout.Idle [⟨3, some "END".toList, []⟩] := by
  obtain ⟨k, ok, clean⟩ := assemble_endMark
  have split : (trace endMark).value.statements =
      [⟨1, none, ".ADDRESS 0XFFFF".toList⟩, ⟨2, none, "HAB".toList⟩] ++
        [⟨3, some "END".toList, []⟩] := by decide +kernel
  have mark : (trace endMark).value.layout.symbols.get? "END".toList = some 0x10000 := by
    decide +kernel
  obtain ⟨value, found, small | ⟨-, full, idle⟩⟩ := labels_within_space ok clean split rfl
  · rw [mark] at found
    cases found
    exact absurd small (by decide)
  · exact ⟨_, k, ok, clean, mark, full, idle⟩

end Assembly

end Anem
