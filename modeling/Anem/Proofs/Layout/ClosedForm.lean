import Anem.Proofs.Journal
import Anem.Proofs.Layout.Roles
import Anem.Proofs.Lists

/-!
The layout of a program without a counter. The place of a statement follows
from those before it: the last address that was moved to, and the instructions
since then. So do the value of a label and the errors of a line.

* `position`: the place, as if the address space had no end;
* `Laid`: what holds between two statements, kept by every step;
* `layout_closed_form`: code, symbols and errors of a whole program.
-/
namespace Anem

namespace Layout

/-- The last address that was moved to, zero without one. -/
def base (before : List Statement) : Nat :=
  (before.filterMap Statement.move?).getLast?.getD 0

/-- The instructions since then. -/
def sinceBase (before : List Statement) : Nat :=
  (before.reverse.takeWhile fun s => s.move?.isNone).countP Statement.isInstruction

/-- The place after these statements, as if the address space had no end. -/
def position (before : List Statement) : Nat :=
  base before + sinceBase before

def next (n : Nat) (s : Statement) : Nat :=
  match s.role with
  | .move address => address
  | .instruction => n + 1
  | _ => n

theorem position_append (before : List Statement) (s : Statement) :
    position (before ++ [s]) = next (position before) s := by
  have counted := s.isInstruction_iff
  cases h : s.role with
  | move address =>
    have moved : s.move? = some address := by rw [Statement.move?, h]
    simp [position, base, sinceBase, moved, next, h]
  | instruction | none | define name value | reject cause =>
    have stayed : s.move? = none := by rw [Statement.move?, h]
    simp [position, base, sinceBase, stayed, next, h, counted, Nat.add_assoc]

/-- What an instruction at this place adds to the code: nothing once the
address space is full. -/
def landing (n : Nat) (s : Statement) : List (Nat × Nat × Text) :=
  if s.isInstruction ∧ n < addressLimit then [(n, s.origin, s.text)] else []

def placement (before : List Statement) (s : Statement) : List (Nat × Nat × Text) :=
  landing (position before) s

/-- The value of a label at this place: one beyond the last address at most. -/
def labelled (n : Nat) (label : Option Text) : List (Text × Int) :=
  (label.map fun label => (label, Int.ofNat (min n addressLimit))).toList

/-- What a statement defines: its label first, then its constant. -/
def definitions (before : List Statement) (s : Statement) : List (Text × Int) :=
  labelled (position before) s.label ++ s.constant?.toList

/-- A name that already has a value is not defined again. -/
def clash (known : List (Text × Int)) (definition : Text × Int) : List Fault :=
  if (known.lookup definition.1).isSome then [.redefinition definition.1] else []

/-- An instruction beyond the last address and a directive that makes no sense
are refused. -/
def refusal (n : Nat) (s : Statement) : List Fault :=
  match s.role with
  | .instruction => if n < addressLimit then [] else [.fieldRange addressLimit 16]
  | .reject cause => [cause]
  | _ => []

/-- The faults of a statement, with its line. -/
def faults (before : List Statement) (s : Statement) : List (Nat × Fault) :=
  (gather (fun own => clash (gather definitions before ++ own)) (definitions before s) ++
    refusal (position before) s).map fun cause => (s.origin, cause)

/-- An item by its address as a number, its line and its text. -/
def spot (item : Item) : Nat × Nat × Text :=
  (item.address.toNat, item.origin, item.text)

theorem spot_injective : Function.Injective spot := by
  rintro ⟨a, m, s⟩ ⟨b, n, t⟩ same
  simp only [spot, Prod.mk.injEq] at same
  obtain ⟨address, rfl, rfl⟩ := same
  cases BitVec.eq_of_toNat_eq address
  rfl

/-- The items at an address that an earlier one has. -/
def overlaps (code : List Item) : List Item :=
  gather (fun earlier item => if item.address ∈ earlier.map (·.address) then [item] else []) code

theorem overlaps_append (code : List Item) (item : Item) :
    overlaps (code ++ [item]) =
      overlaps code ++ (if item.address ∈ code.map (·.address) then [item] else []) :=
  gather_append_singleton _ code item

/-- What holds between two statements: the state and the events so far are
those of a program with this position, these placements and definitions, and
these errors. -/
structure Laid (n : Nat) (spots : List (Nat × Nat × Text)) (known : List (Text × Int))
    (raised : List (Nat × Fault)) (t : Traced Progress) : Prop where
  counter : t.value.counter = min n addressLimit
  code : t.value.code.toList.map spot = spots
  symbols : ∀ name, t.value.symbols.get? name = known.lookup name
  occupied : ∀ a : Address, t.value.occupied.contains a.toNat = true ↔
    a ∈ t.value.code.toList.map (·.address)
  errors : t.events.toList.filterMap Event.error? = raised
  warnings : t.events.toList.countP Event.isWarning = (overlaps t.value.code.toList).length
  calm : ∀ e ∈ t.events.toList, e.isFatal = false

section Step

variable {n : Nat} {spots : List (Nat × Nat × Text)} {known : List (Text × Int)}
  {raised : List (Nat × Fault)} {t : Traced Progress}

theorem laid_start : Laid 0 [] [] [] (.silent .start) where
  counter := rfl
  code := rfl
  symbols := fun _ => rfl
  occupied := by simp [Traced.silent, Progress.start]
  errors := rfl
  warnings := rfl
  calm := by simp [Traced.silent]

theorem Laid.keep (laid : Laid n spots known raised t) {f : Progress → Traced Progress}
    {n' : Nat} {known' : List (Text × Int)} {more : List (Nat × Fault)}
    (counter : (f t.value).value.counter = min n' addressLimit)
    (code : (f t.value).value.code = t.value.code)
    (occupied : (f t.value).value.occupied = t.value.occupied)
    (symbols : ∀ name, (f t.value).value.symbols.get? name = known'.lookup name)
    (errors : (f t.value).events.toList.filterMap Event.error? = more)
    (quiet : ∀ e ∈ (f t.value).events.toList, e.isWarning = false ∧ e.isFatal = false) :
    Laid n' spots known' (raised ++ more) (t.andThen f) where
  counter := counter
  code := by rw [Traced.value_andThen, code, laid.code]
  symbols := symbols
  occupied := by rw [Traced.value_andThen, code, occupied]; exact laid.occupied
  errors := by
    rw [Traced.events_andThen, Array.toList_append, List.filterMap_append, laid.errors, errors]
  warnings := by
    have none : (f t.value).events.toList.countP Event.isWarning = 0 := by
      rw [List.countP_eq_zero]
      intro e he
      simp [(quiet e he).1]
    rw [Traced.events_andThen, Array.toList_append, List.countP_append, laid.warnings, none,
      Traced.value_andThen, code, Nat.add_zero]
  calm := by
    intro e he
    rw [Traced.events_andThen, Array.toList_append, List.mem_append] at he
    rcases he with he | he
    · exact laid.calm e he
    · exact (quiet e he).2

/-- A step that at most moves the counter and reports errors. -/
theorem Laid.still (laid : Laid n spots known raised t) {f : Progress → Traced Progress}
    {n' c : Nat} {events : Array Event}
    (h : f t.value = ⟨{ t.value with counter := c }, events⟩) (counter : c = min n' addressLimit)
    (quiet : ∀ e ∈ events.toList, e.isWarning = false ∧ e.isFatal = false) :
    Laid n' spots known (raised ++ events.toList.filterMap Event.error?) (t.andThen f) := by
  apply laid.keep
  all_goals rw [h]
  · exact counter
  · exact laid.symbols
  · exact quiet

/-- A definition as the layout makes it: a known name is an error. -/
def enter (p : Progress) (line : Nat) (name : Text) (value : Int) (notes : Array Event) :
    Traced Progress :=
  match p.symbols.define name value with
  | .ok symbols => ⟨{ p with symbols }, notes⟩
  | .error cause => ⟨p, #[.error line cause]⟩

def Progress.knowing (p : Progress) (name : Text) (value : Int) : Progress :=
  { p with symbols := p.symbols.insert name value }

theorem enter_of_new {p : Progress} {name : Text} (new : p.symbols.get? name = none) (line : Nat)
    (value : Int) (notes : Array Event) :
    enter p line name value notes = ⟨p.knowing name value, notes⟩ := by
  rw [enter, SymbolTable.define, new]
  rfl

theorem enter_of_known {p : Progress} {name : Text} {first : Int}
    (known : p.symbols.get? name = some first) (line : Nat) (value : Int) (notes : Array Event) :
    enter p line name value notes = ⟨p, #[.error line (.redefinition name)]⟩ := by
  rw [enter, SymbolTable.define, known]
  rfl

theorem Laid.enter (laid : Laid n spots known raised t) {f : Progress → Traced Progress}
    {line : Nat} {name : Text} {value : Int} {notes : Array Event}
    (h : f t.value = Layout.enter t.value line name value notes)
    (quiet : ∀ e ∈ notes.toList, e.error? = none ∧ e.isWarning = false ∧ e.isFatal = false) :
    Laid n spots (known ++ [(name, value)])
      (raised ++ (clash known (name, value)).map fun cause => (line, cause)) (t.andThen f) := by
  have before := laid.symbols name
  cases found : known.lookup name with
  | some first =>
    rw [found] at before
    apply laid.keep
    all_goals rw [h, enter_of_known before]
    · exact laid.counter
    · intro other
      rw [laid.symbols]
      by_cases same : other = name
      · rw [same, List.lookup_append, found, Option.some_or]
      · rw [lookup_append_of_ne same]
    · simp [clash, found, Event.error?]
    · simp [Event.isWarning, Event.isFatal]
  | none =>
    rw [found] at before
    apply laid.keep
    all_goals rw [h, enter_of_new before, Progress.knowing]
    · exact laid.counter
    · intro other
      by_cases same : other = name
      · rw [same, SymbolTable.get?_insert_self before, List.lookup_append, found, Option.none_or,
          List.lookup_cons_self]
      · rw [SymbolTable.get?_insert_of_ne _ same, laid.symbols, lookup_append_of_ne same]
    · rw [List.filterMap_eq_nil_iff.mpr fun e he => (quiet e he).1]
      simp [clash, found]
    · exact fun e he => (quiet e he).2

theorem value_place {p : Progress} (room : p.counter < addressLimit) (line : Nat) (text : Text) :
    (place p line text).value =
      { p with
        counter := p.counter + 1
        occupied := p.occupied.insert p.counter
        code := p.code.push ⟨BitVec.ofNat 16 p.counter, line, text⟩ } := by
  rw [place, if_pos room]

/-- The one event of an instruction that finds room is a warning that its
place is taken. -/
theorem events_place {p : Progress} (room : p.counter < addressLimit) (line : Nat) (text : Text) :
    let events := (place p line text).events.toList
    events.filterMap Event.error? = [] ∧
    events.countP Event.isWarning = (if p.occupied.contains p.counter then 1 else 0) ∧
    ∀ e ∈ events, e.isFatal = false := by
  simp only [place, if_pos room]
  split
  · exact ⟨rfl, rfl, by simp [Event.isFatal]⟩
  · exact ⟨rfl, rfl, by simp⟩

theorem Laid.place (laid : Laid n spots known raised t) (line : Nat) (text : Text)
    (room : n < addressLimit) :
    Laid (n + 1) (spots ++ [(n, line, text)]) known raised
      (t.andThen fun p => Layout.place p line text) := by
  have here : t.value.counter = n := by rw [laid.counter]; omega
  have back : (BitVec.ofNat 16 n : Address).toNat = n := Nat.mod_eq_of_lt room
  have after := value_place (here ▸ room) line text
  obtain ⟨errors, warnings, calm⟩ := events_place (here ▸ room) line text
  rw [here] at after warnings
  constructor
  case counter =>
    rw [Traced.value_andThen, after]
    exact (Nat.min_eq_left room).symm
  case code =>
    rw [Traced.value_andThen, after, Array.toList_push, List.map_append, laid.code]
    simp [spot, back]
  case symbols =>
    rw [Traced.value_andThen, after]
    exact laid.symbols
  case occupied =>
    intro a
    rw [Traced.value_andThen, after]
    have same : n = a.toNat ↔ a = BitVec.ofNat 16 n := by
      rw [← BitVec.toNat_inj, back, eq_comm]
    simp only [AddressSet.contains_insert, Bool.or_eq_true, decide_eq_true_eq, laid.occupied a,
      same, Array.toList_push, List.map_append, List.map_cons, List.map_nil, List.mem_append,
      List.mem_singleton]
    exact or_comm
  case errors =>
    rw [Traced.events_andThen, Array.toList_append, List.filterMap_append, laid.errors, errors,
      List.append_nil]
  case warnings =>
    have taken := laid.occupied (BitVec.ofNat 16 n)
    rw [back] at taken
    rw [Traced.events_andThen, Array.toList_append, List.countP_append, laid.warnings, warnings,
      Traced.value_andThen, after, Array.toList_push, overlaps_append, List.length_append]
    simp only [taken]
    split
    · rfl
    · rfl
  case calm =>
    intro e he
    rw [Traced.events_andThen, Array.toList_append, List.mem_append] at he
    rcases he with he | he
    · exact laid.calm e he
    · exact calm e he

/-- An instruction that finds no room is one more error. -/
theorem Laid.overflow (laid : Laid n spots known raised t) (line : Nat) (text : Text)
    (full : ¬ n < addressLimit) :
    Laid (n + 1) spots known (raised ++ [(line, .fieldRange addressLimit 16)])
      (t.andThen fun p => Layout.place p line text) := by
  have here : t.value.counter = addressLimit := by rw [laid.counter]; omega
  have refused : Layout.place t.value line text =
      ⟨t.value, #[.error line (.fieldRange addressLimit 16)]⟩ := by
    rw [Layout.place, here, if_neg (Nat.lt_irrefl _)]
  have counter : t.value.counter = min (n + 1) addressLimit := by omega
  exact laid.still (f := fun p => Layout.place p line text) refused counter
    (by simp [Event.isWarning, Event.isFatal])

theorem Laid.label (laid : Laid n spots known raised t) (line : Nat) (label : Option Text) :
    Laid n spots (known ++ labelled n label)
      (raised ++ ((labelled n label).flatMap (clash known)).map fun cause => (line, cause))
      (t.andThen fun p => bindLabel p line label) := by
  cases label with
  | none =>
    refine laid.keep laid.counter rfl rfl ?_ rfl ?_
    · intro name
      rw [labelled, Option.map_none, Option.toList_none, List.append_nil]
      exact laid.symbols name
    · simp [bindLabel, Traced.silent]
  | some label =>
    obtain ⟨message, entered⟩ : ∃ message, bindLabel t.value line (some label) =
        Layout.enter t.value line label (Int.ofNat (min n addressLimit)) #[.debug message] := by
      rw [← laid.counter]
      exact ⟨_, rfl⟩
    have done := laid.enter (f := fun p => bindLabel p line (some label)) entered
      (by simp [Event.error?, Event.isWarning, Event.isFatal])
    simpa only [labelled, Option.map_some, Option.toList_some, List.flatMap_cons,
      List.flatMap_nil, List.append_nil] using done

/-- What a statement does after its label, by its role. -/
def act (p : Progress) (s : Statement) : Traced Progress :=
  match s.role with
  | .none => .silent p
  | .instruction => place p s.origin s.text
  | .move address => .silent { p with counter := address }
  | .define name value => enter p s.origin name value #[]
  | .reject cause => ⟨p, #[.error s.origin cause]⟩

theorem step_eq (p : Progress) (s : Statement) :
    step p s = (bindLabel p s.origin s.label).andThen fun p => act p s := by
  unfold step
  congr
  funext p
  split
  · rename_i empty
    rw [act, Statement.role, empty]
  · rename_i rest dot
    rw [act, Statement.role, dot, applyDirective]
    cases Directive.read? ('.' :: rest) with
    | none => rfl
    | some directive =>
      cases directive with
      | address value =>
        simp only
        split
        · rfl
        · rfl
      | constant name value => rfl
  · rename_i notEmpty notDot
    rw [act, Statement.role_of_other notEmpty notDot]

theorem Laid.act (laid : Laid n spots known raised t) (s : Statement) :
    Laid (next n s) (spots ++ landing n s) (known ++ s.constant?.toList)
      (raised ++ (s.constant?.toList.flatMap (clash known) ++ refusal n s).map
        fun cause => (s.origin, cause))
      (t.andThen fun p => Layout.act p s) := by
  have counted := s.isInstruction_iff
  cases h : s.role with
  | none =>
    have acted : Layout.act t.value s = .silent t.value := by rw [Layout.act, h]
    have done := laid.still (f := fun p => Layout.act p s) acted laid.counter (by simp)
    simpa [next, landing, Statement.constant?, refusal, h, counted] using done
  | instruction =>
    have acted : (fun p => Layout.act p s) = fun p => Layout.place p s.origin s.text := by
      funext p
      rw [Layout.act, h]
    rw [acted]
    by_cases room : n < addressLimit
    · have done := laid.place s.origin s.text room
      simpa [next, landing, Statement.constant?, refusal, h, counted, room] using done
    · have done := laid.overflow s.origin s.text room
      simpa [next, landing, Statement.constant?, refusal, h, room] using done
  | move address =>
    have acted : Layout.act t.value s = .silent { t.value with counter := address } := by
      rw [Layout.act, h]
    have counter := (Nat.min_eq_left (Nat.le_of_lt (Statement.lt_of_move h))).symm
    have done := laid.still (f := fun p => Layout.act p s) acted counter (by simp)
    simpa [next, landing, Statement.constant?, refusal, h, counted] using done
  | define name value =>
    have acted : Layout.act t.value s = Layout.enter t.value s.origin name value #[] := by
      rw [Layout.act, h]
    have done := laid.enter (f := fun p => Layout.act p s) acted (by simp)
    simpa [next, landing, Statement.constant?, refusal, h, counted] using done
  | reject cause =>
    have acted : Layout.act t.value s = ⟨t.value, #[.error s.origin cause]⟩ := by
      rw [Layout.act, h]
    have done := laid.still (f := fun p => Layout.act p s) acted laid.counter
      (by simp [Event.isWarning, Event.isFatal])
    simpa [next, landing, Statement.constant?, refusal, h, counted, Event.error?] using done

end Step

/-- The state after these statements is what the closed form says. -/
def LaidOut (before : List Statement) : Traced Progress → Prop :=
  Laid (position before) (gather placement before) (gather definitions before)
    (gather faults before)

theorem faults_eq (before : List Statement) (s : Statement) :
    let known := gather definitions before
    let own := labelled (position before) s.label
    faults before s =
      ((own.flatMap (clash known)).map fun cause => (s.origin, cause)) ++
        (s.constant?.toList.flatMap (clash (known ++ own)) ++ refusal (position before) s).map
          fun cause => (s.origin, cause) := by
  cases h : s.label
  all_goals cases h' : s.constant?
  all_goals simp [faults, definitions, labelled, gather, h, h']

theorem LaidOut.step {before : List Statement} {t : Traced Progress} (laid : LaidOut before t)
    (s : Statement) : LaidOut (before ++ [s]) (t.andThen fun p => step p s) := by
  have acted := (laid.label s.origin s.label).act s
  rw [List.append_assoc, List.append_assoc, ← faults_eq, Traced.andThen_assoc] at acted
  simp only [LaidOut, position_append, gather_append_singleton, step_eq]
  exact acted

/-- The run lemma: every program is laid out by the closed form. -/
theorem laidOut_foldl (statements : List Statement) :
    LaidOut statements (Traced.foldl step .start statements) :=
  Traced.foldl_induction (motive := LaidOut) laid_start (fun _ _ s laid => laid.step s) statements

theorem code_ofStatements (statements : List Statement) :
    (ofStatements statements).value.code.map spot = gather placement statements :=
  (laidOut_foldl statements).code

theorem get?_ofStatements (statements : List Statement) (name : Text) :
    (ofStatements statements).value.symbols.get? name =
      (gather definitions statements).lookup name :=
  (laidOut_foldl statements).symbols name

theorem errors_ofStatements (statements : List Statement) :
    (ofStatements statements).events.toList.filterMap Event.error? = gather faults statements := by
  simp [ofStatements, (laidOut_foldl statements).errors, Event.error?]

theorem warnings_ofStatements (statements : List Statement) :
    (ofStatements statements).events.toList.countP Event.isWarning =
      (overlaps (ofStatements statements).value.code).length := by
  simp [ofStatements, (laidOut_foldl statements).warnings, Event.isWarning]

theorem calm_ofStatements (statements : List Statement) :
    ∀ e ∈ (ofStatements statements).events.toList, e.isFatal = false := by
  intro e he
  simp only [ofStatements, Traced.events_andThen, Array.toList_append, List.mem_append,
    List.mem_singleton] at he
  rcases he with he | rfl
  · exact (laidOut_foldl statements).calm e he
  · rfl

/-- Only instructions and moves touch the counter and the code. -/
theorem step_keeps {s : Statement} (noInstruction : s.isInstruction = false)
    (noMove : s.move? = none) (p : Progress) :
    (step p s).value.counter = p.counter ∧ (step p s).value.code = p.code := by
  have labelled : (bindLabel p s.origin s.label).value.counter = p.counter ∧
      (bindLabel p s.origin s.label).value.code = p.code := by
    cases s.label with
    | none => exact ⟨rfl, rfl⟩
    | some label =>
      rw [bindLabel]
      split
      · exact ⟨rfl, rfl⟩
      · exact ⟨rfl, rfl⟩
  rw [step_eq, Traced.value_andThen, ← labelled.1, ← labelled.2, act]
  cases h : s.role with
  | none => exact ⟨rfl, rfl⟩
  | instruction => simp [Statement.isInstruction_iff.mpr h] at noInstruction
  | move address => simp [Statement.move?, h] at noMove
  | define name value =>
    simp only [enter]
    split
    · exact ⟨rfl, rfl⟩
    · exact ⟨rfl, rfl⟩
  | reject cause => exact ⟨rfl, rfl⟩

/-- **The layout has a closed form.** In a journal that is not fatal the pass
always comes to an end. Its code is the instructions at their positions, as far
as the address space reaches; a symbol has the value of its first definition;
and the errors are the faults of the statements, in order. What a statement
asks for, a move or a constant with its number or nothing that makes sense, is
what its text tells by the grammar of directives. -/
theorem layout_closed_form (statements : List Statement) {j : Journal} (clear : j.fatal = false) :
    ∃ layout k, (ofStatements statements).commit j = (.ok layout, k) ∧
      layout.code.map spot = gather placement statements ∧
      (∀ name, layout.symbols.get? name = (gather definitions statements).lookup name) ∧
      k.errors = j.errors + (gather faults statements).length ∧
      k.complaints = j.complaints ++ (gather faults statements).map Journal.complaint ∧
      (∀ before, before <+: statements →
        (Traced.foldl step .start before).value.counter = min (position before) addressLimit) ∧
      (∀ p s, s.isInstruction = false → s.move? = none →
        (step p s).value.counter = p.counter ∧ (step p s).value.code = p.code) ∧
      (∀ s role, Statement.role s = role ↔ Statement.Tells s.text role) := by
  obtain ⟨k, absorbed⟩ := Journal.absorb_of_clear clear (calm_ofStatements statements)
  have grown := Journal.grown_of_absorb absorbed
  refine ⟨_, k, Traced.commit_eq_ok.mpr ⟨rfl, absorbed⟩, code_ofStatements statements,
    get?_ofStatements statements, ?_, ?_, ?_, ?_, fun _ _ => Statement.role_eq_iff⟩
  · rw [grown.errors, errors_ofStatements]
  · rw [grown.complaints, errors_ofStatements]
  · exact fun before _ => (laidOut_foldl before).counter
  · exact fun p s noInstruction noMove => step_keeps noInstruction noMove p

/-- A program that moves to the last address and runs over it, with a constant
that is new and one that is not. -/
def crowded : List Statement :=
  [⟨1, some "X".toList, ".ADDRESS 0XFFFF".toList⟩, ⟨2, none, "HAB".toList⟩,
   ⟨3, some "Y".toList, "HAB".toList⟩, ⟨4, some "X".toList, ".CONSTANT X = 7".toList⟩,
   ⟨5, none, ".CONSTANT N = -3".toList⟩]

theorem layout_closed_form_crowded :
    ∃ layout k, (ofStatements crowded).commit (.new .off) = (.ok layout, k) ∧
      layout.code.map spot = [(65535, 2, "HAB".toList)] ∧
      layout.symbols.get? "Y".toList = some 65536 ∧
      layout.symbols.get? "N".toList = some (-3) ∧ k.errors = 3 := by
  obtain ⟨layout, k, done, code, symbols, errors, -⟩ :=
    layout_closed_form crowded (j := .new .off) rfl
  refine ⟨layout, k, done, ?_, ?_, ?_, ?_⟩
  · rw [code]
    decide +kernel
  · rw [symbols]
    decide +kernel
  · rw [symbols]
    decide +kernel
  · rw [errors]
    decide +kernel

end Layout

end Anem
