import Mathlib.Data.List.Dedup
import Mathlib.Data.List.Induction
import Mathlib.Data.List.Lex
import Anem.Proofs.SymbolTable

/-!
A symbol table in use. Requests come one after the other, and what is answered
follows from those before: a name has the value with which it was first
defined, and no later definition of it is accepted.

* `get?_serve`: what one request does to the look-ups;
* `get?_after`: what all requests so far did to them;
* `run_remembers_first_values`: the answer to any request after any others.
-/
namespace Anem

/-- The order of names is that of their code points, the first one that differs
deciding. -/
theorem Text.precedes_iff_lex {s t : Text} :
    precedes s t = true ↔ List.Lex (fun c d : Char => c.toNat < d.toNat) s t := by
  induction s generalizing t with
  | nil =>
    cases t with
    | nil => simp [precedes]
    | cons d t => simp [precedes]
  | cons c s ih =>
    cases t with
    | nil => simp [precedes]
    | cons d t =>
      rw [precedes]
      by_cases same : c = d
      · subst same
        rw [if_pos rfl, ih]
        constructor
        · exact .cons
        · intro less
          cases less with
          | cons rest => exact rest
          | rel less => exact absurd less (Nat.lt_irrefl _)
      · rw [if_neg same, decide_eq_true_iff]
        constructor
        · exact fun less => .rel less
        · intro less
          cases less with
          | cons rest => exact absurd rfl same
          | rel less => exact less

namespace SymbolTable

inductive Request where
  | define (name : Text) (value : Int)
  | resolve (name : Text)
  | get (name : Text)
  | list

inductive Answer where
  | defined (outcome : Except Fault Unit)
  | resolved (outcome : Except Fault Int)
  | got (value : Option Int)
  | listed (entries : List (Text × Int))

/-- The answer to a request, and the table that it leaves. -/
def serve (table : SymbolTable) : Request → Answer × SymbolTable
  | .define name value =>
    match table.define name value with
    | .ok next => (.defined (.ok ()), next)
    | .error cause => (.defined (.error cause), table)
  | .resolve name => (.resolved (table.resolve name), table)
  | .get name => (.got (table.get? name), table)
  | .list => (.listed table.entries, table)

def after (requests : List Request) : SymbolTable :=
  requests.foldl (fun table request => (table.serve request).2) empty

def answers (table : SymbolTable) : List Request → List Answer
  | [] => []
  | request :: requests => (table.serve request).1 :: (table.serve request).2.answers requests

def Request.definition? : Request → Option (Text × Int)
  | .define name value => some (name, value)
  | _ => none

/-- The names and values of all definitions asked for. -/
def definitions (requests : List Request) : List (Text × Int) :=
  requests.filterMap Request.definition?

/-- The value with which a name was first defined. -/
def first? (requests : List Request) (name : Text) : Option Int :=
  (definitions requests).lookup name

def Accepted (requests : List Request) (name : Text) : Prop :=
  ∃ earlier value later, requests = earlier ++ .define name value :: later ∧
    ((after earlier).serve (.define name value)).1 = .defined (.ok ())

section Serve

variable {table : SymbolTable} {name : Text}

theorem serve_define_new (new : table.get? name = none) (value : Int) :
    table.serve (.define name value) = (.defined (.ok ()), table.insert name value) := by
  simp [serve, define, new]

theorem serve_define_known {first : Int} (known : table.get? name = some first) (value : Int) :
    table.serve (.define name value) = (.defined (.error (.redefinition name)), table) := by
  simp [serve, define, known]

theorem resolve_eq (table : SymbolTable) (name : Text) :
    table.resolve name = (table.get? name).elim (.error (.undefinedSymbol name)) .ok := by
  rw [resolve]
  cases table.get? name with
  | none => rfl
  | some value => rfl

/-- The step lemma: a definition gives a name that has no value yet its value,
and nothing else changes what is known. -/
theorem get?_serve (table : SymbolTable) (request : Request) (name : Text) :
    (table.serve request).2.get? name =
      (table.get? name).or (request.definition?.toList.lookup name) := by
  cases request with
  | resolve | get | list => simp [serve, Request.definition?]
  | define other value =>
    have own : (Request.define other value).definition?.toList = [(other, value)] := rfl
    rw [own, List.lookup_cons]
    cases known : table.get? other with
    | some first =>
      rw [serve_define_known known]
      by_cases same : name = other
      · rw [same, known, Option.some_or]
      · rw [beq_false_of_ne same, List.lookup_nil, Option.or_none]
    | none =>
      rw [serve_define_new known]
      by_cases same : name = other
      · rw [same, get?_insert_self known, known, Option.none_or, beq_self_eq_true]
      · rw [get?_insert_of_ne _ same, beq_false_of_ne same, List.lookup_nil, Option.or_none]

end Serve

theorem definitions_append (earlier later : List Request) :
    definitions (earlier ++ later) = definitions earlier ++ definitions later :=
  List.filterMap_append

theorem first?_append_singleton (requests : List Request) (request : Request) (name : Text) :
    first? (requests ++ [request]) name =
      (first? requests name).or (request.definition?.toList.lookup name) := by
  have own : definitions [request] = request.definition?.toList := by
    rw [definitions, List.filterMap_cons]
    cases request.definition? with
    | none => rfl
    | some definition => rfl
  rw [first?, definitions_append, List.lookup_append, own, first?]

theorem after_append_singleton (requests : List Request) (request : Request) :
    after (requests ++ [request]) = ((after requests).serve request).2 := by
  rw [after, List.foldl_append]
  rfl

/-- The run lemma: a table knows the first value of every name. -/
theorem get?_after (requests : List Request) (name : Text) :
    (after requests).get? name = first? requests name := by
  induction requests using List.reverseRecOn with
  | nil => rfl
  | append_singleton requests request ih =>
    rw [after_append_singleton, get?_serve, ih, first?_append_singleton]

/-- The answer to a request is that of the table which the earlier ones leave. -/
theorem getElem?_answers (before later : List Request) (request : Request) :
    (answers empty (before ++ request :: later))[before.length]? =
      some ((after before).serve request).1 := by
  suffices ∀ table : SymbolTable, (answers table (before ++ request :: later))[before.length]? =
      some ((before.foldl (fun table request => (table.serve request).2) table).serve request).1 by
    exact this empty
  induction before with
  | nil => intro table; rfl
  | cons earlier before ih =>
    intro table
    rw [List.cons_append, answers, List.length_cons, List.getElem?_cons_succ, ih, List.foldl_cons]

/-- Exactly the names that have a value were defined with success. -/
theorem accepted_iff {requests : List Request} {name : Text} :
    Accepted requests name ↔ ∃ value, first? requests name = some value := by
  constructor
  · rintro ⟨earlier, value, later, rfl, -⟩
    rw [first?, definitions_append, List.lookup_append]
    have own : definitions (.define name value :: later) = (name, value) :: definitions later := rfl
    rw [own, List.lookup_cons_self]
    cases (definitions earlier).lookup name with
    | none => exact ⟨value, rfl⟩
    | some first => exact ⟨first, rfl⟩
  · rintro ⟨value, found⟩
    obtain ⟨front, back, whole, absent⟩ := List.lookup_eq_some_iff.mp found
    -- The first definition of the name comes upon a table that does not know it.
    obtain ⟨earlier, rest, rfl, rfl, more⟩ := List.filterMap_eq_append_iff.mp whole
    obtain ⟨others, request, later, rfl, silent, own, -⟩ := List.filterMap_eq_cons_iff.mp more
    have known : request = .define name value := by
      cases request with
      | define other v =>
        cases own
        rfl
      | resolve | get | list => cases own
    subst known
    have nothing : definitions others = [] := List.filterMap_eq_nil_iff.mpr silent
    have new : (after (earlier ++ others)).get? name = none := by
      rw [get?_after, first?, definitions_append, nothing, List.append_nil]
      exact List.lookup_eq_none_iff.mpr absent
    refine ⟨earlier ++ others, value, later, (List.append_assoc ..).symm, ?_⟩
    rw [serve_define_new new]

theorem mem_entries_after {requests : List Request} {name : Text} {value : Int} :
    (name, value) ∈ (after requests).entries ↔ first? requests name = some value := by
  rw [mem_entries_iff, get?_after]

theorem nodup_names (table : SymbolTable) : (table.entries.map Prod.fst).Nodup := by
  rw [List.Nodup, List.pairwise_map]
  apply table.ascending.imp
  intro d e less same
  rw [same, Text.precedes_irrefl] at less
  cases less

theorem mem_names_iff {requests : List Request} {name : Text} :
    name ∈ (definitions requests).map Prod.fst ↔ ∃ value, first? requests name = some value := by
  rw [← Option.isSome_iff_exists, first?, List.lookup_isSome_iff, List.mem_map]
  apply exists_congr
  intro definition
  rw [beq_iff_eq, eq_comm]

/-- The names of a table are those of the definitions, each of them once. -/
theorem names_after (requests : List Request) :
    ((after requests).entries.map Prod.fst).Perm ((definitions requests).map Prod.fst).dedup := by
  rw [List.perm_ext_iff_of_nodup (nodup_names _) (List.nodup_dedup _)]
  intro name
  rw [List.mem_dedup, mem_names_iff, List.mem_map]
  constructor
  · rintro ⟨⟨name, value⟩, entry, rfl⟩
    exact ⟨value, mem_entries_after.mp entry⟩
  · rintro ⟨value, first⟩
    exact ⟨(name, value), mem_entries_after.mpr first, rfl⟩

/-- What a table answers by the requests before, and which table is left. -/
structure Remembers (before : List Request) (table : SymbolTable) : Prop where
  accepts : ∀ name value,
    (table.serve (.define name value)).1 = .defined (.ok ()) ↔ ¬ Accepted before name
  refuses : ∀ name value,
    table.serve (.define name value) = (.defined (.error (.redefinition name)), table) ↔
      Accepted before name
  get : ∀ name, table.serve (.get name) = (.got (first? before name), table)
  resolve : ∀ name, table.serve (.resolve name) =
    (.resolved ((first? before name).elim (.error (.undefinedSymbol name)) .ok), table)
  list : ∃ entries, table.serve .list = (.listed entries, table) ∧
    entries.Pairwise (fun d e => List.Lex (fun a b : Char => a.toNat < b.toNat) d.1 e.1) ∧
    (entries.map Prod.fst).Nodup ∧
    ∀ name value, (name, value) ∈ entries ↔ first? before name = some value
  size : table.size = ((definitions before).map Prod.fst).dedup.length
  isEmpty : table.isEmpty = true ↔ table.size = 0

/-- A definition is accepted exactly if none of its name was before. -/
theorem serve_define_after (before : List Request) (name : Text) (value : Int) :
    ¬ Accepted before name ∧ ((after before).serve (.define name value)).1 = .defined (.ok ()) ∨
      Accepted before name ∧ (after before).serve (.define name value) =
        (.defined (.error (.redefinition name)), after before) := by
  have known := get?_after before name
  rw [accepted_iff]
  cases found : first? before name with
  | none =>
    rw [found] at known
    rw [serve_define_new known]
    exact Or.inl ⟨nofun, rfl⟩
  | some first =>
    rw [found] at known
    exact Or.inr ⟨⟨first, rfl⟩, serve_define_known known value⟩

theorem remembers_after (before : List Request) : Remembers before (after before) where
  accepts := by
    intro name value
    rcases serve_define_after before name value with ⟨new, accepted⟩ | ⟨known, refused⟩
    · exact iff_of_true accepted new
    · rw [refused]
      exact iff_of_false nofun (not_not_intro known)
  refuses := by
    intro name value
    rcases serve_define_after before name value with ⟨new, accepted⟩ | ⟨known, refused⟩
    · refine iff_of_false ?_ new
      intro refused
      rw [refused] at accepted
      cases accepted
    · exact iff_of_true refused known
  get := by
    intro name
    rw [serve, get?_after]
  resolve := by
    intro name
    rw [serve, resolve_eq, get?_after]
  list := ⟨_, rfl, (after before).ascending.imp Text.precedes_iff_lex.mp, nodup_names _,
    fun _ _ => mem_entries_after⟩
  size := by
    rw [← (names_after before).length_eq, List.length_map]
    rfl
  isEmpty := by
    rw [isEmpty, List.isEmpty_iff, ← List.length_eq_zero_iff]
    rfl

/-- **A table remembers first values.** Whatever was asked for before, a
definition is accepted if none of its name was, and otherwise refused as a
redefinition that leaves the table as it is. Every other answer follows from the
value with which a name was first defined. -/
theorem run_remembers_first_values (before later : List Request) (request : Request) :
    (after before).Remembers before ∧
      (answers empty (before ++ request :: later))[before.length]? =
        some ((after before).serve request).1 :=
  ⟨remembers_after before, getElem?_answers before later request⟩

end SymbolTable

end Anem
