import Anem.Image
import Anem.Proofs.Layout.ClosedForm
import Anem.Proofs.SymbolTable

namespace Anem

/-- The names that a statement defines, its label first. -/
def Statement.names (s : Statement) : List Text :=
  s.label.toList ++ (s.constant?.map Prod.fst).toList

namespace Layout

section Aside

variable {p : Progress} {name : Text} (new : p.symbols.get? name = none) (value : Int)

/-- A statement that defines other names leaves this one alone. -/
theorem get?_enter {other : Text} (ne : other ≠ name) (p : Progress) (line : Nat) (w : Int)
    (notes : Array Event) :
    (enter p line other w notes).value.symbols.get? name = p.symbols.get? name := by
  cases known : p.symbols.get? other with
  | some first => rw [enter_of_known known]
  | none =>
    rw [enter_of_new known]
    exact SymbolTable.get?_insert_of_ne _ ne.symm w

theorem get?_bindLabel {label : Option Text} (ne : name ∉ label.toList) (p : Progress)
    (line : Nat) : (bindLabel p line label).value.symbols.get? name = p.symbols.get? name := by
  cases label with
  | none => rfl
  | some label => exact get?_enter (by simpa [eq_comm] using ne) p line _ _

theorem get?_act {s : Statement} (ne : name ∉ s.names) (p : Progress) :
    (act p s).value.symbols.get? name = p.symbols.get? name := by
  rw [act]
  cases role : s.role with
  | none | move address | reject cause => rfl
  | instruction =>
    simp only [place]
    split
    · rfl
    · rfl
  | define other w =>
    have own : other ∈ s.names := by simp [Statement.names, Statement.constant?, role]
    apply get?_enter
    intro same
    exact ne (same ▸ own)

theorem get?_step {s : Statement} (ne : name ∉ s.names) (p : Progress) :
    (step p s).value.symbols.get? name = p.symbols.get? name := by
  rw [step_eq, Traced.value_andThen, get?_act ne, get?_bindLabel]
  intro labelled
  exact ne (List.mem_append_left _ labelled)

theorem place_knowing (p : Progress) (name : Text) (line : Nat) (text : Text) :
    place (p.knowing name value) line text =
      (place p line text).andThen fun q => .silent (q.knowing name value) := by
  by_cases room : p.counter < addressLimit
  · have roomToo : (p.knowing name value).counter < addressLimit := room
    rw [place, place, if_pos room, if_pos roomToo, Traced.andThen, Traced.silent, Array.append_empty]
    rfl
  · have fullToo : ¬ (p.knowing name value).counter < addressLimit := room
    rw [place, place, if_neg room, if_neg fullToo]
    rfl

include new

theorem enter_knowing {other : Text} (ne : other ≠ name) (line : Nat) (w : Int)
    (notes : Array Event) :
    enter (p.knowing name value) line other w notes =
      (enter p line other w notes).andThen fun q => .silent (q.knowing name value) := by
  have unmoved : (p.knowing name value).symbols.get? other = p.symbols.get? other :=
    SymbolTable.get?_insert_of_ne _ ne value
  cases known : p.symbols.get? other with
  | some first =>
    rw [enter_of_known known, enter_of_known (unmoved.trans known)]
    rfl
  | none =>
    rw [enter_of_new known, enter_of_new (unmoved.trans known)]
    simp only [Progress.knowing, SymbolTable.insert_comm ne.symm new known value w]
    simp [Traced.andThen, Traced.silent]

theorem bindLabel_knowing {label : Option Text} (ne : name ∉ label.toList) (line : Nat) :
    bindLabel (p.knowing name value) line label =
      (bindLabel p line label).andThen fun q => .silent (q.knowing name value) := by
  cases label with
  | none => rfl
  | some label => exact enter_knowing new value (by simpa [eq_comm] using ne) line _ _

theorem act_knowing {s : Statement} (ne : name ∉ s.names) :
    act (p.knowing name value) s =
      (act p s).andThen fun q => .silent (q.knowing name value) := by
  simp only [act]
  cases role : s.role with
  | none | move address | reject cause => rfl
  | instruction => exact place_knowing value p name s.origin s.text
  | define other w =>
    have own : other ∈ s.names := by simp [Statement.names, Statement.constant?, role]
    apply enter_knowing new
    intro same
    exact ne (same ▸ own)

/-- A statement does the same whether or not another name is known. -/
theorem step_knowing {s : Statement} (ne : name ∉ s.names) :
    step (p.knowing name value) s =
      (step p s).andThen fun q => .silent (q.knowing name value) := by
  have unlabelled : name ∉ s.label.toList := fun labelled => ne (List.mem_append_left _ labelled)
  have still := (get?_bindLabel unlabelled p s.origin).trans new
  rw [step_eq, step_eq, bindLabel_knowing new value unlabelled, Traced.andThen_assoc,
    Traced.andThen_assoc]
  apply Traced.andThen_congr
  rw [Traced.silent_andThen, act_knowing still value ne]

end Aside

theorem get?_foldl {name : Text} {program : List Statement} (ne : ∀ s ∈ program, name ∉ s.names) :
    (Traced.foldl step .start program).value.symbols.get? name = none := by
  revert ne
  apply Traced.foldl_induction
    (motive := fun (seen : List Statement) (t : Traced Progress) =>
      (∀ s ∈ seen, name ∉ s.names) → t.value.symbols.get? name = none)
  · intro _
    rfl
  · intro seen t s before ne
    have earlier := before fun u hu => ne u (List.mem_append_left _ hu)
    exact (get?_step (ne s (by simp)) t.value).trans earlier

section Constant

variable {c : Statement} {name : Text} {value : Int} (unlabelled : c.label = none)
  (constant : c.constant? = some (name, value))

include unlabelled constant

theorem step_constant {p : Progress} (new : p.symbols.get? name = none) :
    step p c = .silent (p.knowing name value) := by
  rw [step_eq, unlabelled, bindLabel, Traced.silent_andThen, act,
    Statement.role_of_constant? constant]
  exact enter_of_new new c.origin value #[]

/-- The step lemma: a constant moves past a statement. -/
theorem step_comm {p : Progress} (new : p.symbols.get? name = none) {s : Statement}
    (ne : name ∉ s.names) :
    (step p c).andThen (fun q => step q s) = (step p s).andThen fun q => step q c := by
  rw [step_constant unlabelled constant new, Traced.silent_andThen, step_knowing new value ne]
  apply Traced.andThen_congr
  rw [step_constant unlabelled constant ((get?_step ne p).trans new)]

/-- The run lemma: it moves past a whole program. -/
theorem foldl_comm {t : Traced Progress} (new : t.value.symbols.get? name = none)
    {rest : List Statement} (ne : ∀ s ∈ rest, name ∉ s.names) :
    rest.foldl (fun t s => t.andThen fun p => step p s) (t.andThen fun p => step p c) =
      (rest.foldl (fun t s => t.andThen fun p => step p s) t).andThen fun p => step p c := by
  induction rest generalizing t with
  | nil => rfl
  | cons s rest ih =>
    have own := ne s List.mem_cons_self
    have swapped : (t.andThen fun p => step p c).andThen (fun p => step p s) =
        (t.andThen fun p => step p s).andThen fun p => step p c := by
      rw [Traced.andThen_assoc, Traced.andThen_assoc]
      exact Traced.andThen_congr (step_comm unlabelled constant new own)
    rw [List.foldl_cons, List.foldl_cons, swapped]
    apply ih
    · exact (get?_step own t.value).trans new
    · exact fun u hu => ne u (List.mem_cons_of_mem s hu)

/-- So its place in the program does not matter. -/
theorem foldl_constant {front back : List Statement} (ne : ∀ s ∈ front ++ back, name ∉ s.names) :
    Traced.foldl step .start (front ++ c :: back) =
      (Traced.foldl step .start (front ++ back)).andThen fun p => step p c := by
  have new := get?_foldl fun s hs => ne s (List.mem_append_left back hs)
  have past := foldl_comm unlabelled constant new fun s hs => ne s (List.mem_append_right front hs)
  rw [Traced.foldl, Traced.foldl, List.foldl_append, List.foldl_cons, List.foldl_append]
  exact past

end Constant

/-- A name that one statement defines is not among those of the others. -/
theorem names_of_once {c : Statement} {front back : List Statement} {name : Text}
    (own : name ∈ c.names) (once : ((front ++ c :: back).flatMap Statement.names).Nodup) :
    ∀ s ∈ front ++ back, name ∉ s.names := by
  intro s hs named
  have others : name ∈ (front ++ back).flatMap Statement.names := List.mem_flatMap.mpr ⟨s, hs, named⟩
  have moved : ((c :: (front ++ back)).flatMap Statement.names).Nodup :=
    (List.perm_middle.flatMap_right _).nodup_iff.mp once
  rw [List.flatMap_cons, List.nodup_append] at moved
  exact moved.2.2 name own name others rfl

/-- The passes that follow the statements. -/
def passes (statements : List Statement) : Run (Layout × Image) := do
  let layout ← (ofStatements statements).commit
  let image ← (Image.ofLayout layout).commit
  return (layout, image)

/-- **Constants may stand anywhere.** In a program that defines no name twice,
let a constant without a label stand at two places. In a new journal both
programs are laid out, with the same symbols, the same code and the same
journal; and in every journal the passes up to the image have the same outcome,
words or abort, and leave the same journal. -/
theorem constant_anywhere {c : Statement} {name : Text} {value : Int} (unlabelled : c.label = none)
    (constant : c.constant? = some (name, value)) {front back newFront newBack : List Statement}
    (once : ((front ++ c :: back).flatMap Statement.names).Nodup)
    (moved : front ++ back = newFront ++ newBack) (v : Verbosity) :
    (∃ layout j, (ofStatements (front ++ c :: back)).commit (.new v) = (.ok layout, j) ∧
      (ofStatements (newFront ++ c :: newBack)).commit (.new v) = (.ok layout, j)) ∧
    ∀ j, passes (front ++ c :: back) j = passes (newFront ++ c :: newBack) j := by
  have own : name ∈ c.names := by simp [Statement.names, constant]
  have ne := names_of_once own once
  have same : ofStatements (front ++ c :: back) = ofStatements (newFront ++ c :: newBack) := by
    rw [ofStatements, ofStatements, foldl_constant unlabelled constant ne,
      foldl_constant unlabelled constant (moved ▸ ne), moved]
  constructor
  · obtain ⟨j, done⟩ := Traced.commit_of_calm (j := .new v) rfl
      (calm_ofStatements (front ++ c :: back))
    exact ⟨_, j, done, same ▸ done⟩
  · intro j
    rw [passes, passes, same]

/-- A loop that uses its limit before it is known, beside a line without sense. -/
def countdown : List Statement :=
  [⟨1, some "LOOP".toList, "LIL $1, %LIMIT%".toList⟩, ⟨2, none, ".BOGUS".toList⟩,
   ⟨3, none, "J %LOOP%".toList⟩]

def limit : Statement := ⟨4, none, ".CONSTANT LIMIT = 5".toList⟩

theorem constant_anywhere_countdown :
    ((countdown ++ limit :: []).flatMap Statement.names).Nodup ∧
    (∃ layout j, (ofStatements (countdown ++ limit :: [])).commit (.new .off) = (.ok layout, j) ∧
      (ofStatements ([] ++ limit :: countdown)).commit (.new .off) = (.ok layout, j) ∧
      layout.symbols.get? "LIMIT".toList = some 5 ∧ j.errors = 1) ∧
    ∀ j, passes (countdown ++ limit :: []) j = passes ([] ++ limit :: countdown) j := by
  have once : ((countdown ++ limit :: []).flatMap Statement.names).Nodup := by decide +kernel
  have constant : limit.constant? = some ("LIMIT".toList, 5) := by decide +kernel
  have moved : countdown ++ [] = [] ++ countdown := rfl
  obtain ⟨⟨layout, j, first, second⟩, outcomes⟩ := constant_anywhere rfl constant once moved .off
  refine ⟨once, ⟨layout, j, first, second, ?_, ?_⟩, outcomes⟩
  · rw [← (Traced.commit_eq_ok.mp first).1]
    decide +kernel
  · rw [(Journal.grown_of_absorb (Traced.commit_eq_ok.mp first).2).errors]
    decide +kernel

end Layout

end Anem
