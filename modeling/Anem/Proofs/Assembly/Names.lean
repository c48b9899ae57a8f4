import Anem.Proofs.Assembly.Passes
import Anem.Proofs.Instruction.Canonical
import Anem.Proofs.Instruction.References

namespace Anem

open Text

namespace SymbolTable

/-- A symbol that an operand can refer to, by its whole value, and a jump can
go to: its word holds the distance to the value, unless that is too far. -/
structure Referable (symbols : SymbolTable) (name : Text) (value : Int) : Prop where
  identifier : isIdentifier name = true
  operand : Operand.read? ('%' :: name ++ ['%']) = some (.immediate (.symbol name .whole))
  jump : Instruction.parse ("J %".toList ++ name ++ ['%']) = .ok (.jump .j (.label name) none)
  word : ∀ address : Address,
    (Instruction.jump .j (.label name) none).encode address symbols =
      match Field.signed (Instruction.distance value address) 12 with
      | .ok field => .ok (Word.pack 8 field)
      | .error _ =>
        .error (.displacement address "J".toList (Instruction.distance value address))

theorem referable_of_isIdentifier {symbols : SymbolTable} {name : Text} {value : Int}
    (bound : symbols.get? name = some value) (identifier : isIdentifier name = true) :
    symbols.Referable name value where
  identifier := identifier
  operand := Operand.read?_immediate (i := .symbol name .whole) identifier
  jump := by
    have spelled : (Target.label name).Spelled := identifier
    have read := Instruction.parse_jump (by decide : Jump.j ≠ .bz) spelled
    exact read
  word := Instruction.encode_jump bound (by decide)

end SymbolTable

namespace Statement

theorem isIdentifier_of_splitLabel {t name : Text} (h : (splitLabel t).1 = some name) :
    isIdentifier name = true := by
  rcases splitLabel_cases t with bare | ⟨front, rest, -, identifier, split⟩
  · rw [bare] at h
    cases h
  · rw [split] at h
    cases h
    exact identifier

theorem Reading.label {line : SourceLine} {t : Traced (List Statement)} (reading : Reading line t)
    {s : Statement} (own : s ∈ t.value) {name : Text} (labelled : s.label = some name) :
    line.label = some name := by
  have alone (h : s ∈ (labelAlone line.number line.mnemonic line.label).value) :
      line.label = some name := by
    obtain ⟨other, given, rfl⟩ := mem_labelAlone h
    rw [given]
    exact labelled
  cases reading with
  | blank | crowded | missing => cases own
  | nothing | plain =>
    rw [List.mem_singleton.mp own] at labelled
    exact labelled
  | expanded named read =>
    rw [Traced.value_andThen] at own
    rcases List.mem_append.mp own with own | own
    · exact alone own
    · obtain ⟨text, -, rfl⟩ := List.mem_map.mp own
      cases labelled
  | refused named read =>
    simp only [Traced.value_andThen] at own
    exact alone own

theorem isIdentifier_of_label {lines : List SourceLine} {s : Statement} {name : Text}
    (given : s ∈ (ofLines lines).value) (labelled : s.label = some name) :
    isIdentifier name = true := by
  rw [value_ofLines] at given
  obtain ⟨line, -, own⟩ := List.mem_flatMap.mp given
  exact isIdentifier_of_splitLabel ((reading_ofLine line).label own labelled)

end Statement

namespace Layout

theorem defined_of_get? {statements : List Statement} {name : Text} {value : Int}
    (bound : (ofStatements statements).value.symbols.get? name = some value) :
    ∃ s ∈ statements, s.label = some name ∨ s.constant? = some (name, value) := by
  rw [get?_ofStatements] at bound
  obtain ⟨front, rest, found, -⟩ := List.lookup_eq_some_iff.mp bound
  have defined : (name, value) ∈ gather definitions statements := by
    rw [found]
    exact List.mem_append_right _ List.mem_cons_self
  obtain ⟨before, s, after, split, own⟩ := mem_gather.mp defined
  refine ⟨s, by rw [split]; simp, ?_⟩
  rcases List.mem_append.mp own with own | own
  · rw [labelled, Option.mem_toList, Option.map_eq_some_iff] at own
    obtain ⟨label, given, same⟩ := own
    cases same
    exact Or.inl given
  · exact Or.inr (Option.mem_toList.mp own)

/-- A constant has a value, if not its own then that of an earlier definition. -/
theorem get?_of_constant {statements : List Statement} {s : Statement} (given : s ∈ statements)
    {name : Text} {value : Int} (constant : s.constant? = some (name, value)) :
    ∃ first, (ofStatements statements).value.symbols.get? name = some first := by
  obtain ⟨before, after, split⟩ := List.append_of_mem given
  have defined : (name, value) ∈ gather definitions statements := by
    refine mem_gather.mpr ⟨before, s, after, split, List.mem_append_right _ ?_⟩
    exact Option.mem_toList.mpr constant
  cases found : (gather definitions statements).lookup name with
  | some first => exact ⟨first, (get?_ofStatements statements name).trans found⟩
  | none =>
    have other := List.lookup_eq_none_iff.mp found _ defined
    simp at other

end Layout

namespace Assembly

/-- **Which symbols can be referred to.** In a run that goes through every
symbol that a label binds can be referred to. So can all symbols exactly if
every constant has a name of the basic alphabet. -/
theorem symbols_referable {source : Text} {j k : Journal} {a : Assembly}
    (ok : assemble source j = (.ok a, k)) :
    (∀ s ∈ a.statements, ∀ name value, s.label = some name →
      a.layout.symbols.get? name = some value → a.layout.symbols.Referable name value) ∧
    ((∀ name value, a.layout.symbols.get? name = some value →
        a.layout.symbols.Referable name value) ↔
      ∀ s ∈ a.statements, ∀ name value, s.constant? = some (name, value) →
        isIdentifier name = true) := by
  obtain ⟨rfl, -⟩ := assemble_eq_ok.mp ok
  refine ⟨?_, ?_, ?_⟩
  · intro s given name value labelled bound
    exact SymbolTable.referable_of_isIdentifier bound
      (Statement.isIdentifier_of_label given labelled)
  · intro referable s given name value constant
    obtain ⟨first, bound⟩ := Layout.get?_of_constant given constant
    exact (referable name first bound).identifier
  · intro named name value bound
    apply SymbolTable.referable_of_isIdentifier bound
    obtain ⟨s, given, labelled | constant⟩ := Layout.defined_of_get? bound
    · exact Statement.isIdentifier_of_label given labelled
    · exact named s given name value constant

/-- A label and a constant that can both be referred to. -/
def bounded : Text := "loop: hab\n.constant limit = -3\n".toList

theorem symbols_referable_bounded :
    ∃ a k, assemble bounded (.new .off) = (.ok a, k) ∧
      a.layout.symbols.Referable "LOOP".toList 0 ∧
      a.layout.symbols.Referable "LIMIT".toList (-3) := by
  have calm : ∀ e ∈ (trace bounded).events.toList, e.isFatal = false := by decide +kernel
  have named : ∀ s ∈ (trace bounded).value.statements, ∀ c ∈ s.constant?,
      isIdentifier c.1 = true := by decide +kernel
  obtain ⟨k, ok⟩ := assemble_of_calm (j := .new .off) rfl calm
  obtain ⟨labels, all⟩ := symbols_referable ok
  have referable := all.mpr fun s given name value constant => named s given (name, value) constant
  refine ⟨_, k, ok, ?_, referable _ _ (by decide +kernel)⟩
  exact labels ⟨1, some "LOOP".toList, "HAB".toList⟩ (by decide +kernel) _ _ rfl (by decide +kernel)

/-- A constant and a jump that goes to it in vain. -/
def foreign : Text := ".CONSTANT É = 5\nJ %É%\n".toList

/-- Not every symbol can be referred to. -/
theorem constant_out_of_reach :
    ∃ a k, assemble foreign (.new .off) = (.ok a, k) ∧
      a.layout.symbols.get? "É".toList = some 5 ∧ isIdentifier "É".toList = false ∧
      Operand.read? "%É%".toList = none ∧
      Instruction.parse "J %É%".toList = .error (.malformed "J %É%".toList) := by
  have calm : ∀ e ∈ (trace foreign).events.toList, e.isFatal = false := by decide +kernel
  obtain ⟨k, ok⟩ := assemble_of_calm (j := .new .off) rfl calm
  refine ⟨_, k, ok, by decide +kernel, by decide +kernel, by decide +kernel, ?_⟩
  decide +kernel

end Assembly

end Anem
