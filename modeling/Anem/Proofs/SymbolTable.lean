import Mathlib.Data.List.Sort
import Anem.SymbolTable

namespace Anem.SymbolTable

/-- The value of a name is the one that it is entered with. -/
theorem mem_entries_iff {table : SymbolTable} {name : Text} {value : Int} :
    (name, value) ∈ table.entries ↔ table.get? name = some value := by
  obtain ⟨entries, ascending⟩ := table
  simp only [get?]
  constructor
  · intro entry
    induction entries with
    | nil => cases entry
    | cons e entries ih =>
      obtain ⟨first, rest⟩ := List.pairwise_cons.mp ascending
      rcases List.mem_cons.mp entry with rfl | later
      · simp
      · have other : e.1 ≠ name := by
          intro same
          have before := first _ later
          rw [same, Text.precedes_irrefl] at before
          cases before
        rw [List.find?_cons_of_neg (by simpa using other)]
        exact ih rest later
  · intro bound
    obtain ⟨e, found, rfl⟩ := Option.map_eq_some_iff.mp bound
    have same : e.1 = name := by simpa using List.find?_some found
    rw [← same]
    exact List.mem_of_find?_eq_some found

theorem ext_get? {s t : SymbolTable} (same : ∀ name, s.get? name = t.get? name) : s = t := by
  have members : ∀ e : Text × Int, e ∈ s.entries ↔ e ∈ t.entries := by
    rintro ⟨name, value⟩
    rw [mem_entries_iff, mem_entries_iff, same]
  have irrefl : Std.Irrefl fun d e : Text × Int => Text.precedes d.1 e.1 = true :=
    ⟨fun e => by simp [Text.precedes_irrefl]⟩
  have antisymm : Std.Antisymm fun d e : Text × Int => Text.precedes d.1 e.1 = true := by
    constructor
    intro d e less greater
    have around := Text.precedes_trans less greater
    rw [Text.precedes_irrefl] at around
    cases around
  have entries : s.entries = t.entries := s.ascending.eq_of_mem_iff t.ascending members
  obtain ⟨_, _⟩ := s
  obtain ⟨_, _⟩ := t
  cases entries
  rfl

/-- Two names that are new get their values in either order. -/
theorem insert_comm {table : SymbolTable} {m n : Text} (ne : m ≠ n) (newM : table.get? m = none)
    (newN : table.get? n = none) (v w : Int) :
    (table.insert m v).insert n w = (table.insert n w).insert m v := by
  have stillM : (table.insert n w).get? m = none := by rw [get?_insert_of_ne _ ne, newM]
  have stillN : (table.insert m v).get? n = none := by rw [get?_insert_of_ne _ ne.symm, newN]
  apply ext_get?
  intro name
  by_cases isM : name = m
  · rw [isM, get?_insert_of_ne _ ne, get?_insert_self newM, get?_insert_self stillM]
  · by_cases isN : name = n
    · rw [isN, get?_insert_of_ne _ ne.symm, get?_insert_self newN, get?_insert_self stillN]
    · rw [get?_insert_of_ne _ isN, get?_insert_of_ne _ isM, get?_insert_of_ne _ isM,
        get?_insert_of_ne _ isN]

end Anem.SymbolTable
