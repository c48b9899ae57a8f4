import Anem.Fault
import Anem.Text.Order

namespace Anem

/-- Entries in strictly ascending order of their names. -/
abbrev Ascending (entries : List (Text × Int)) : Prop :=
  entries.Pairwise fun a b => Text.precedes a.1 b.1 = true

structure SymbolTable where
  entries : List (Text × Int)
  ascending : Ascending entries

namespace SymbolTable

def empty : SymbolTable := ⟨[], .nil⟩

def size (table : SymbolTable) : Nat := table.entries.length

def isEmpty (table : SymbolTable) : Bool := table.entries.isEmpty

def get? (table : SymbolTable) (name : Text) : Option Int :=
  (table.entries.find? fun e => e.1 = name).map (·.2)

def resolve (table : SymbolTable) (name : Text) : Except Fault Int :=
  match table.get? name with
  | some value => .ok value
  | none => .error (.undefinedSymbol name)

/-- A new entry in its place; an entry of the same name stays. -/
def insertEntry (name : Text) (value : Int) : List (Text × Int) → List (Text × Int)
  | [] => [(name, value)]
  | e :: es =>
    if Text.precedes name e.1 then (name, value) :: e :: es
    else if name = e.1 then e :: es
    else e :: insertEntry name value es

theorem fst_mem_insertEntry {name : Text} {value : Int} {es : List (Text × Int)} {e : Text × Int}
    (h : e ∈ insertEntry name value es) : e.1 = name ∨ e ∈ es := by
  induction es with
  | nil => simp_all [insertEntry]
  | cons d ds ih => grind [insertEntry]

theorem ascending_insertEntry (name : Text) (value : Int) {es : List (Text × Int)}
    (h : Ascending es) : Ascending (insertEntry name value es) := by
  induction es with
  | nil => simp [insertEntry, Ascending]
  | cons e es ih =>
    obtain ⟨first, rest⟩ := List.pairwise_cons.mp h
    unfold insertEntry
    split
    · rename_i lt
      refine List.pairwise_cons.mpr ⟨fun d hd => ?_, h⟩
      rcases List.mem_cons.mp hd with rfl | hd
      · exact lt
      · exact Text.precedes_trans lt (first d hd)
    · split
      · exact h
      · rename_i ge ne
        refine List.pairwise_cons.mpr ⟨fun d hd => ?_, ih rest⟩
        rcases fst_mem_insertEntry hd with hd | hd
        · rw [hd]
          exact Text.precedes_total ne (by simpa using ge)
        · exact first d hd

def insert (table : SymbolTable) (name : Text) (value : Int) : SymbolTable :=
  ⟨insertEntry name value table.entries, ascending_insertEntry name value table.ascending⟩

/-- Gives a name its value. -/
def define (table : SymbolTable) (name : Text) (value : Int) : Except Fault SymbolTable :=
  if (table.get? name).isSome then .error (.redefinition name)
  else .ok (table.insert name value)

theorem get?_insert_self {table : SymbolTable} {name : Text} (new : table.get? name = none)
    (value : Int) : (table.insert name value).get? name = some value := by
  obtain ⟨es, _⟩ := table
  simp only [get?, insert, Option.map_eq_none_iff] at new ⊢
  induction es with
  | nil => simp [insertEntry]
  | cons e es ih =>
    have ne : e.1 ≠ name := fun same => by simp [same] at new
    rw [List.find?_cons_of_neg (by simpa using ne)] at new
    unfold insertEntry
    split
    · simp
    · rw [if_neg (Ne.symm ne), List.find?_cons_of_neg (by simpa using ne)]
      exact ih (List.pairwise_cons.mp ‹_›).2 new

theorem get?_insert_of_ne (table : SymbolTable) {name other : Text} (ne : other ≠ name)
    (value : Int) : (table.insert name value).get? other = table.get? other := by
  obtain ⟨es, _⟩ := table
  simp only [get?, insert]
  congr 1
  induction es with
  | nil => simp [insertEntry, Ne.symm ne]
  | cons e es ih =>
    unfold insertEntry
    split
    · simp [Ne.symm ne]
    · split
      · rfl
      · by_cases h : e.1 = other
        · simp [h]
        · simp only [List.find?_cons_of_neg, h, decide_false, Bool.false_eq_true, not_false_eq_true]
          exact ih (List.pairwise_cons.mp ‹_›).2

end SymbolTable

end Anem
