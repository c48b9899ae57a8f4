import Mathlib.Data.List.Basic
import Anem.Proofs.Instruction.References
import Anem.Proofs.Layout.ClosedForm

namespace Anem

/-- In a table that has grown an item fares as before, unless it lacked its
symbol. -/
theorem Item.encode_of_grown {t u : SymbolTable}
    (grown : ∀ name value, t.get? name = some value → u.get? name = some value) (item : Item) :
    item.encode u = item.encode t ∨
      ∃ name, item.encode t = .error (.undefinedSymbol name) := by
  cases parsed : Instruction.parse item.text with
  | error cause =>
    left
    rw [encode_of_unparsed parsed, encode_of_unparsed parsed]
  | ok ins =>
    rw [encode_of_parse parsed, encode_of_parse parsed]
    cases mentioned : ins.symbol? with
    | none =>
      left
      exact Instruction.encode_of_no_symbol mentioned _ _ _ _
    | some name =>
      cases bound : t.get? name with
      | none =>
        right
        exact ⟨name, Instruction.encode_of_unbound mentioned bound _⟩
      | some value =>
        left
        apply Instruction.encode_congr
        intro other same
        rw [mentioned] at same
        cases same
        rw [bound, grown name value bound]

namespace Layout

theorem code_prefix_append (before after : List Statement) :
    (ofStatements before).value.code <+: (ofStatements (before ++ after)).value.code := by
  have spots := code_ofStatements (before ++ after)
  rw [gather_append, ← code_ofStatements before] at spots
  obtain ⟨front, back, split, first, -⟩ := List.map_eq_append_iff.mp spots
  rw [split, List.map_injective_iff.mpr spot_injective first]
  exact List.prefix_append _ back

theorem get?_append {before : List Statement} {name : Text} {value : Int}
    (bound : (ofStatements before).value.symbols.get? name = some value)
    (after : List Statement) :
    (ofStatements (before ++ after)).value.symbols.get? name = some value := by
  rw [get?_ofStatements] at bound
  rw [get?_ofStatements, gather_append, List.lookup_append, bound, Option.some_or]

/-- **What follows does not change earlier code.** A program and the same
program with more behind it are both laid out in journals that are not fatal.
The code of the first is the first part of the code of the second, every symbol
keeps its value, and every instruction has the same outcome against both symbol
tables, unless its symbol is not defined in the first. -/
theorem appending_keeps_code (before after : List Statement) {i j : Journal}
    (clear : i.fatal = false) (clearToo : j.fatal = false) :
    ∃ a b i' j', (ofStatements before).commit i = (.ok a, i') ∧
      (ofStatements (before ++ after)).commit j = (.ok b, j') ∧
      a.code <+: b.code ∧
      (∀ name value, a.symbols.get? name = some value → b.symbols.get? name = some value) ∧
      ∀ item ∈ a.code, item.encode b.symbols = item.encode a.symbols ∨
        ∃ name, item.encode a.symbols = .error (.undefinedSymbol name) := by
  obtain ⟨i', first⟩ := Traced.commit_of_calm clear (calm_ofStatements before)
  obtain ⟨j', second⟩ := Traced.commit_of_calm clearToo (calm_ofStatements (before ++ after))
  refine ⟨_, _, i', j', first, second, code_prefix_append before after, ?_, ?_⟩
  · intro name value bound
    exact get?_append bound after
  · intro item _
    apply Item.encode_of_grown
    intro name value bound
    exact get?_append bound after

/-- A jump to what is not there yet, and a loop. -/
def opening : List Statement :=
  [⟨1, none, "J %EXIT%".toList⟩, ⟨2, some "LOOP".toList, "J %LOOP%".toList⟩]

/-- The place that was missing, and another definition of the loop. -/
def ending : List Statement :=
  [⟨3, some "EXIT".toList, "HAB".toList⟩, ⟨4, some "LOOP".toList, "HAB".toList⟩]

theorem appending_keeps_code_opening :
    ∃ a b i j, (ofStatements opening).commit (.new .off) = (.ok a, i) ∧
      (ofStatements (opening ++ ending)).commit (.new .off) = (.ok b, j) ∧
      a.code <+: b.code ∧ b.symbols.get? "LOOP".toList = some 1 ∧
      Item.encode b.symbols ⟨1, 2, "J %LOOP%".toList⟩ = .ok 0x8000 := by
  obtain ⟨a, b, i, j, first, second, code, symbols, outcomes⟩ :=
    appending_keeps_code opening ending (i := .new .off) (j := .new .off) rfl rfl
  have known : a = (ofStatements opening).value := (Traced.commit_eq_ok.mp first).1.symm
  have loop : Item.encode a.symbols ⟨1, 2, "J %LOOP%".toList⟩ = .ok 0x8000 := by
    rw [known]
    decide +kernel
  refine ⟨a, b, i, j, first, second, code, ?_, ?_⟩
  · apply symbols
    rw [known]
    decide +kernel
  · rcases outcomes ⟨1, 2, "J %LOOP%".toList⟩ (by rw [known]; decide +kernel) with same | ⟨name, lost⟩
    · rw [same]
      exact loop
    · rw [loop] at lost
      cases lost

end Layout

end Anem
