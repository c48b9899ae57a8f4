import Anem.Proofs.Instruction.References
import Anem.Proofs.Layout.Faultless

namespace Anem

/-- An item so many places further on. -/
def Item.moved (k : Nat) (item : Item) : Item :=
  { item with address := item.address + BitVec.ofNat 16 k }

inductive Binder where
  | label
  | constant
deriving DecidableEq

/-- How a statement binds a name; its label counts before its constant. -/
def Statement.binds? (s : Statement) (name : Text) : Option Binder :=
  (if s.label = some name then some .label else none).or
    (if s.constant?.map Prod.fst = some name then some .constant else none)

namespace Layout

/-- How the first statement that defines a name binds it. -/
def binder? (statements : List Statement) (name : Text) : Option Binder :=
  statements.findSome? fun s => s.binds? name

theorem binder?_cons (s : Statement) (statements : List Statement) (name : Text) :
    binder? (s :: statements) name = (s.binds? name).or (binder? statements name) := by
  rw [binder?, List.findSome?_cons]
  cases s.binds? name with
  | none => rfl
  | some binder => rfl

/-- The values of a symbol before and after the program has been moved. -/
inductive Moved (k : Nat) : Option Binder → Option Int → Option Int → Prop where
  | label (value : Int) : Moved k (some .label) (some value) (some (value + k))
  | constant (value : Int) : Moved k (some .constant) (some value) (some value)
  | unbound : Moved k none none none

section Symbols

variable {k : Nat} {name : Text}

theorem Moved.or {b c : Option Binder} {u v u' v' : Option Int} (first : Moved k b u v)
    (second : Moved k c u' v') : Moved k (b.or c) (u.or u') (v.or v') := by
  cases first with
  | label value => exact .label value
  | constant value => exact .constant value
  | unbound => exact second

theorem Moved.of_label {u v : Option Int} (h : Moved k (some .label) u v) :
    ∃ value, u = some value ∧ v = some (value + k) := by
  cases h with
  | label value => exact ⟨value, rfl, rfl⟩

theorem moved_labelled {n : Nat} (fits : k + n ≤ addressLimit) (label : Option Text) :
    Moved k (if label = some name then some .label else none) ((labelled n label).lookup name)
      ((labelled (k + n) label).lookup name) := by
  cases label with
  | none => exact .unbound
  | some other =>
    have near : min n addressLimit = n := Nat.min_eq_left (by omega)
    have far : min (k + n) addressLimit = k + n := Nat.min_eq_left fits
    have apart : Int.ofNat (k + n) = Int.ofNat n + k := by simp [Int.add_comm]
    simp only [labelled, Option.map_some, Option.toList_some, near, far, lookup_singleton, apart,
      Option.some.injEq]
    by_cases same : other = name
    · simp only [if_pos same]
      exact .label n
    · simp only [if_neg same]
      exact .unbound

theorem moved_constant (constant : Option (Text × Int)) :
    Moved k (if constant.map Prod.fst = some name then some .constant else none)
      (constant.toList.lookup name) (constant.toList.lookup name) := by
  cases constant with
  | none => exact .unbound
  | some definition =>
    obtain ⟨other, value⟩ := definition
    simp only [Option.map_some, Option.toList_some, lookup_singleton, Option.some.injEq]
    by_cases same : other = name
    · simp only [if_pos same]
      exact .constant value
    · simp only [if_neg same]
      exact .unbound

/-- The step lemma: a statement binds its names as if it had been moved. -/
theorem moved_definitions {n : Nat} (fits : k + n ≤ addressLimit) (s : Statement) :
    Moved k (s.binds? name) ((labelled n s.label ++ s.constant?.toList).lookup name)
      ((labelled (k + n) s.label ++ s.constant?.toList).lookup name) := by
  rw [List.lookup_append, List.lookup_append]
  exact (moved_labelled fits s.label).or (moved_constant s.constant?)

/-- The run lemma: so does a whole program. -/
theorem moved_gather {f g : List Statement → Statement → List (Text × Int)}
    {statements : List Statement}
    (each : ∀ before s after, statements = before ++ s :: after →
      Moved k (s.binds? name) ((f before s).lookup name) ((g before s).lookup name)) :
    Moved k (binder? statements name) ((gather f statements).lookup name)
      ((gather g statements).lookup name) := by
  induction statements generalizing f g with
  | nil => exact .unbound
  | cons s statements ih =>
    have first := each [] s statements rfl
    have rest : Moved k (binder? statements name) _ _ :=
      ih (f := fun before => f (s :: before)) (g := fun before => g (s :: before))
        fun before t after split => each (s :: before) t after (by rw [split, List.cons_append])
    rw [gather, gather, List.lookup_append, List.lookup_append, binder?_cons]
    exact first.or rest

end Symbols

theorem distance_moved {value : Int} {k : Nat} {near far : Address}
    (apart : far.toNat = near.toNat + k) :
    Instruction.distance (value + k) far = Instruction.distance value near := by
  have same : value + k - (near.toNat + k : Nat) = value - near.toNat := by omega
  rw [Instruction.distance, Instruction.distance, apart, same]

/-- A jump and its label that move together have the same word, or are too far
apart by the same offset. -/
theorem encode_moved {item : Item} {k : Nat}
    (apart : (item.moved k).address.toNat = item.address.toNat + k) {op : Jump} {name : Text}
    {predicate : Option Predicate}
    (parsed : Instruction.parse item.text = .ok (.jump op (.label name) predicate))
    {t u : SymbolTable} {value : Int} (before : t.get? name = some value)
    (after : u.get? name = some (value + k)) :
    (∃ word, item.encode t = .ok word ∧ (item.moved k).encode u = .ok word) ∨
      ∃ offset, item.encode t = .error (.displacement item.address (Mnemonic.name op) offset) ∧
        (item.moved k).encode u =
          .error (.displacement (item.moved k).address (Mnemonic.name op) offset) := by
  have whole := (Instruction.spelled_of_parse parsed).2
  have parsedToo : Instruction.parse (item.moved k).text = .ok (.jump op (.label name) predicate) :=
    parsed
  rw [Item.encode_of_parse parsed, Item.encode_of_parse parsedToo,
    Instruction.encode_jump before whole, Instruction.encode_jump after whole,
    distance_moved apart]
  cases Field.signed (Instruction.distance value item.address) op.targetWidth with
  | ok field => exact Or.inl ⟨_, rfl, rfl⟩
  | error cause => exact Or.inr ⟨_, rfl, rfl⟩

section Program

/-- Behind a move every statement has its place so much further on. -/
theorem position_moved {front : Statement} {k : Nat} (moves : front.move? = some k)
    {before : List Statement} (still : ∀ s ∈ before, s.move? = none) :
    position (front :: before) = k + position before := by
  have start : position [front] = k := by simp [position, base, sinceBase, moves]
  have place := position_append_still [front] still
  rw [start, List.singleton_append] at place
  rw [place, position_of_still still]

variable {statements : List Statement} (still : ∀ s ∈ statements, s.move? = none)
  {front : Statement} {k : Nat} (moves : front.move? = some k)
  (fits : k + statements.countP Statement.isInstruction ≤ addressLimit)

include still

theorem still_of_split {before after : List Statement} (split : statements = before ++ after) :
    ∀ s ∈ before, s.move? = none := by
  intro s hs
  apply still
  rw [split]
  exact List.mem_append_left after hs

include fits

/-- As far as the program goes there is room for it, also after the move. -/
theorem room_moved {before after : List Statement} {s : Statement}
    (split : statements = before ++ s :: after) :
    k + position before ≤ addressLimit ∧
      (s.isInstruction = true → k + position before < addressLimit) := by
  rw [position_of_still (still_of_split still split)]
  rw [split, List.countP_append, List.countP_cons] at fits
  constructor
  · omega
  · intro instruction
    rw [if_pos instruction] at fits
    omega

theorem address_moved {item : Item} (placed : item ∈ (ofStatements statements).value.code) :
    (item.moved k).address.toNat = item.address.toNat + k := by
  have listed : spot item ∈ gather placement statements := by
    rw [← code_ofStatements]
    exact List.mem_map_of_mem placed
  obtain ⟨before, s, after, split, own⟩ := mem_gather.mp listed
  rw [placement, landing] at own
  have limit : addressLimit = 2 ^ 16 := rfl
  have room : item.address.toNat + k < 2 ^ 16 := by
    by_cases lands : s.isInstruction = true ∧ position before < addressLimit
    · rw [if_pos lands, List.mem_singleton] at own
      have here : item.address.toNat = position before := congrArg Prod.fst own
      have beyond := (room_moved still fits split).2 lands.1
      omega
    · rw [if_neg lands] at own
      cases own
  have small : k < 2 ^ 16 := by omega
  rw [Item.moved, BitVec.toNat_add, BitVec.toNat_ofNat, Nat.mod_eq_of_lt small]
  exact Nat.mod_eq_of_lt room

include moves

theorem code_moved :
    (ofStatements (front :: statements)).value.code =
      (ofStatements statements).value.code.map (Item.moved k) := by
  apply List.map_injective_iff.mpr spot_injective
  have idle : placement [] front = [] := by
    rw [placement, landing, if_neg]
    rintro ⟨instruction, -⟩
    rw [Statement.isInstruction_iff, Statement.role_of_move? moves] at instruction
    cases instruction
  have places : gather (fun before => placement (front :: before)) statements =
      gather (fun before s => (placement before s).map fun p => (p.1 + k, p.2)) statements := by
    apply gather_congr
    intro before s after split
    have room := (room_moved still fits split).2
    simp only [placement, landing, position_moved moves (still_of_split still split)]
    by_cases instruction : s.isInstruction = true
    · have beyond := room instruction
      have here : position before < addressLimit := by omega
      rw [if_pos ⟨instruction, beyond⟩, if_pos ⟨instruction, here⟩, List.map_singleton,
        Nat.add_comm]
    · rw [if_neg (instruction ·.1), if_neg (instruction ·.1), List.map_nil]
  calc (ofStatements (front :: statements)).value.code.map spot
      = (gather placement statements).map (fun p => (p.1 + k, p.2)) := by
        rw [code_ofStatements, gather, idle, List.nil_append, places, map_gather]
    _ = ((ofStatements statements).value.code.map (Item.moved k)).map spot := by
        rw [← code_ofStatements, List.map_map, List.map_map]
        apply List.map_congr_left
        intro item placed
        have apart := address_moved still fits placed
        exact congrArg (fun a => (a, item.origin, item.text)) apart.symm

theorem symbols_moved (unlabelled : front.label = none) (name : Text) :
    Moved k (binder? statements name) ((ofStatements statements).value.symbols.get? name)
      ((ofStatements (front :: statements)).value.symbols.get? name) := by
  have silent : definitions [] front = [] := by
    rw [definitions, unlabelled, Statement.constant?, Statement.role_of_move? moves]
    rfl
  rw [get?_ofStatements, get?_ofStatements, gather, silent, List.nil_append]
  apply moved_gather
  intro before s after split
  have place := position_moved moves (still_of_split still split)
  rw [definitions, definitions, place]
  exact moved_definitions (room_moved still fits split).1 s

end Program

/-- **Code can be moved.** Let a program hold no directive that moves, and put a
directive that moves to `k`, without a label, before it, such that its
instructions still fit. In new journals both are laid out. The second code is the
first with every address greater by `k`; labels are greater by `k` and constants,
which are bound as their directives are written, the same, with the same names; a
jump to a label has the same word, or is too far by the same offset; and an
instruction that mentions no symbol has the same word or the same fault. -/
theorem code_relocatable {statements : List Statement}
    (still : ∀ s ∈ statements, ∀ a : Nat, Directive.Written s.text (.address a) → 0xFFFF < a)
    {front : Statement} (unlabelled : front.label = none) {k : Nat} (space : k ≤ 0xFFFF)
    (moves : Directive.Written front.text (.address k))
    (fits : k + statements.countP Statement.isInstruction ≤ 0x10000) (v w : Verbosity) :
    ∃ a b i j, (ofStatements statements).commit (.new v) = (.ok a, i) ∧
      (ofStatements (front :: statements)).commit (.new w) = (.ok b, j) ∧
      b.code = a.code.map (Item.moved k) ∧
      (∀ name, Moved k (binder? statements name) (a.symbols.get? name) (b.symbols.get? name)) ∧
      (∀ s name value, Statement.constant? s = some (name, value) ↔
        Directive.Written s.text (.constant name value) ∧ Literal.InRange value) ∧
      ∀ item ∈ a.code,
        (item.moved k).address.toNat = item.address.toNat + k ∧
        (∀ op name predicate,
          Instruction.parse item.text = .ok (.jump op (.label name) predicate) →
          binder? statements name = some .label →
          (∃ word, item.encode a.symbols = .ok word ∧ (item.moved k).encode b.symbols = .ok word) ∨
          ∃ offset,
            item.encode a.symbols =
              .error (.displacement item.address (Mnemonic.name op) offset) ∧
            (item.moved k).encode b.symbols =
              .error (.displacement (item.moved k).address (Mnemonic.name op) offset)) ∧
        ((∀ ins, Instruction.parse item.text = .ok ins → ins.symbol? = none) →
          (item.moved k).encode b.symbols = item.encode a.symbols) := by
  obtain ⟨i, first⟩ := Traced.commit_of_calm (j := .new v) rfl (calm_ofStatements statements)
  obtain ⟨j, second⟩ := Traced.commit_of_calm (j := .new w) rfl
    (calm_ofStatements (front :: statements))
  have still : ∀ s ∈ statements, s.move? = none :=
    fun s given => Statement.move?_eq_none.mpr (still s given)
  have moves : front.move? = some k := Statement.move?_eq_some.mpr ⟨moves, space⟩
  have symbols := symbols_moved still moves fits unlabelled
  refine ⟨_, _, i, j, first, second, code_moved still moves fits, symbols,
    fun _ _ _ => Statement.constant?_eq_some, ?_⟩
  intro item placed
  have apart := address_moved still fits placed
  refine ⟨apart, ?_, ?_⟩
  · intro op name predicate parsed bound
    have values := symbols name
    rw [bound] at values
    obtain ⟨value, before, after⟩ := values.of_label
    exact encode_moved apart parsed before after
  · intro mute
    have same : (item.moved k).text = item.text := rfl
    exact Item.encode_of_mute same mute _ _

/-- A loop with a limit, to be put at the last addresses. -/
def looped : List Statement :=
  [⟨2, some "LOOP".toList, "LIL $1, %LIMIT%".toList⟩, ⟨3, none, ".CONSTANT LIMIT = 5".toList⟩,
   ⟨4, none, "J %LOOP%".toList⟩]

def toTheEnd : Statement := ⟨1, none, ".ADDRESS 0XFFFE".toList⟩

theorem code_relocatable_looped :
    Directive.Written toTheEnd.text (.address 0xFFFE) ∧
    ∃ a b i j, (ofStatements looped).commit (.new .off) = (.ok a, i) ∧
      (ofStatements (toTheEnd :: looped)).commit (.new .debug) = (.ok b, j) ∧
      b.code.map spot =
        [(0xFFFE, 2, "LIL $1, %LIMIT%".toList), (0xFFFF, 4, "J %LOOP%".toList)] ∧
      Moved 0xFFFE (some .label) (a.symbols.get? "LOOP".toList) (b.symbols.get? "LOOP".toList) ∧
      Moved 0xFFFE (some .constant) (a.symbols.get? "LIMIT".toList)
        (b.symbols.get? "LIMIT".toList) ∧
      ∃ word, Item.encode a.symbols ⟨1, 4, "J %LOOP%".toList⟩ = .ok word ∧
        Item.encode b.symbols ⟨0xFFFF, 4, "J %LOOP%".toList⟩ = .ok word := by
  have still : ∀ s ∈ looped, s.move? = none := by decide +kernel
  have literal : Literal.Written .address "0XFFFE".toList 0xFFFE :=
    Literal.denote?_eq_some.mp (by decide)
  have moves : Directive.Written toTheEnd.text (.address 0xFFFE) :=
    .address (⟨by decide, by decide⟩ : Text.Gap [' ']) literal (List.all_nil ..)
  have fits : 0xFFFE + looped.countP Statement.isInstruction ≤ 0x10000 := by decide +kernel
  have bound : binder? looped "LOOP".toList = some .label := by decide +kernel
  have fixed : binder? looped "LIMIT".toList = some .constant := by decide +kernel
  obtain ⟨a, b, i, j, first, second, code, symbols, -, outcomes⟩ :=
    code_relocatable (fun s given => Statement.move?_eq_none.mp (still s given)) rfl (by decide)
      moves fits .off .debug
  have known : a = (ofStatements looped).value := (Traced.commit_eq_ok.mp first).1.symm
  have placed : ⟨1, 4, "J %LOOP%".toList⟩ ∈ a.code := by
    rw [known]
    decide +kernel
  have parsed : Instruction.parse "J %LOOP%".toList = .ok (.jump .j (.label "LOOP".toList) none) := by
    decide +kernel
  refine ⟨moves, a, b, i, j, first, second, ?_, bound ▸ symbols _, fixed ▸ symbols _, ?_⟩
  · rw [code, known]
    decide +kernel
  · obtain ⟨-, jumps, -⟩ := outcomes _ placed
    rcases jumps _ _ _ parsed bound with same | ⟨offset, lost, -⟩
    · exact same
    · have found : Item.encode a.symbols ⟨1, 4, "J %LOOP%".toList⟩ = .ok 0x8FFF := by
        rw [known]
        decide +kernel
      rw [found] at lost
      cases lost

end Layout

end Anem
