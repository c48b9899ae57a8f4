import Anem.Layout
import Anem.Proofs.Directives

namespace Anem

namespace Statement

/-- The text is an instruction: it is not empty and does not start with a dot. -/
def isInstruction (s : Statement) : Bool :=
  !s.text.isEmpty && s.text.head? != some '.'

/-- What the text of a statement asks of the layout. -/
inductive Role where
  | none
  | instruction
  | move (address : Nat)
  | define (name : Text) (value : Int)
  | reject (cause : Fault)

def role (s : Statement) : Role :=
  match s.text with
  | [] => .none
  | '.' :: _ =>
    match Directive.read? s.text with
    | some (.address value) =>
      if value < addressLimit then .move value.toNat else .reject (.fieldRange value 16)
    | some (.constant name value) => .define name value
    | none => .reject (.invalidDirective s.text)
  | _ => .instruction

/-- The address of a directive that moves the counter. -/
def move? (s : Statement) : Option Nat :=
  match s.role with
  | .move address => some address
  | _ => none

/-- The name and value of a directive that defines a constant. -/
def constant? (s : Statement) : Option (Text × Int) :=
  match s.role with
  | .define name value => some (name, value)
  | _ => none

theorem role_of_move? {s : Statement} {address : Nat} (h : s.move? = some address) :
    s.role = .move address := by
  rw [move?] at h
  split at h
  · cases h
    assumption
  · cases h

theorem role_of_constant? {s : Statement} {name : Text} {value : Int}
    (h : s.constant? = some (name, value)) : s.role = .define name value := by
  rw [constant?] at h
  split at h
  · cases h
    assumption
  · cases h

theorem role_of_other {s : Statement} (notEmpty : s.text = [] → False)
    (notDot : ∀ rest, s.text = '.' :: rest → False) : s.role = .instruction := by
  unfold role
  split
  · exact absurd ‹_› notEmpty
  · exact absurd ‹_› (notDot _)
  · rfl

/-- What a text tells the layout, by its wording. -/
inductive Tells : Text → Role → Prop where
  | nothing : Tells [] .none
  | instruction {c : Char} {rest : Text} (plain : c ≠ '.') : Tells (c :: rest) .instruction
  | move {t : Text} {address : Nat} (written : Directive.Written t (.address address))
    (room : address ≤ 0xFFFF) : Tells t (.move address)
  | far {t : Text} {v : Int} (written : Directive.Written t (.address v)) (beyond : 0xFFFF < v)
    (range : Literal.InRange v) : Tells t (.reject (.fieldRange v 16))
  | define {t name : Text} {v : Int} (written : Directive.Written t (.constant name v))
    (range : Literal.InRange v) : Tells t (.define name v)
  | senseless {rest : Text}
    (nonsense : ∀ d, Directive.Written ('.' :: rest) d → ¬ Literal.InRange d.value) :
    Tells ('.' :: rest) (.reject (.invalidDirective ('.' :: rest)))

theorem tells_role (s : Statement) : Tells s.text s.role := by
  have limit : addressLimit = 0x10000 := rfl
  obtain ⟨origin, label, text⟩ := s
  unfold role
  split
  · rename_i empty
    cases empty
    exact .nothing
  · rename_i rest dot
    cases dot
    split
    · rename_i v found
      obtain ⟨written, range⟩ := Directive.read?_eq_some.mp found
      split
      · rename_i room
        have back : (v.toNat : Int) = v := Int.toNat_of_nonneg written.nonneg
        rw [← back] at written
        exact .move written (by omega)
      · rename_i far
        exact .far written (by omega) range
    · rename_i name v found
      obtain ⟨written, range⟩ := Directive.read?_eq_some.mp found
      exact .define written range
    · rename_i none
      refine .senseless fun d written range => ?_
      have found := Directive.read?_eq_some.mpr ⟨written, range⟩
      rw [none] at found
      cases found
  · rename_i notEmpty notDot
    cases text with
    | nil => exact absurd rfl notEmpty
    | cons c rest => exact .instruction fun same => notDot rest (by rw [same])

section Directive

variable {s : Statement}

theorem role_of_address {v : Int} (written : Directive.Written s.text (.address v))
    (range : Literal.InRange v) :
    s.role = if v < addressLimit then .move v.toNat else .reject (.fieldRange v 16) := by
  have read := Directive.read?_eq_some.mpr ⟨written, range⟩
  obtain ⟨rest, dot⟩ := written.dotted
  rw [dot] at read
  simp only [role, dot, read]

theorem role_of_constant {name : Text} {v : Int}
    (written : Directive.Written s.text (.constant name v)) (range : Literal.InRange v) :
    s.role = .define name v := by
  have read := Directive.read?_eq_some.mpr ⟨written, range⟩
  obtain ⟨rest, dot⟩ := written.dotted
  rw [dot] at read
  simp only [role, dot, read]

theorem role_of_senseless {rest : Text} (dot : s.text = '.' :: rest)
    (nonsense : ∀ d, Directive.Written s.text d → ¬ Literal.InRange d.value) :
    s.role = .reject (.invalidDirective s.text) := by
  have unread : Directive.read? s.text = none := by
    apply Option.eq_none_iff_forall_ne_some.mpr
    intro d found
    obtain ⟨written, range⟩ := Directive.read?_eq_some.mp found
    exact nonsense d written range
  rw [dot] at unread
  simp only [role, dot, unread]

end Directive

/-- The role of a statement is what its text tells. -/
theorem role_eq_iff {s : Statement} {r : Role} : s.role = r ↔ Tells s.text r := by
  constructor
  · rintro rfl
    exact s.tells_role
  · intro told
    have limit : addressLimit = 0x10000 := rfl
    obtain ⟨origin, label, text⟩ := s
    cases told with
    | nothing => rfl
    | instruction plain =>
      exact role_of_other (List.cons_ne_nil _ _) fun _ same => plain (List.cons.inj same).1
    | move written room =>
      rw [role_of_address written (Literal.inRange_of_small (by omega) (by omega)), if_pos (by omega)]
      rfl
    | far written beyond range => rw [role_of_address written range, if_neg (by omega)]
    | define written range => exact role_of_constant written range
    | senseless nonsense => exact role_of_senseless rfl nonsense

theorem isInstruction_iff {s : Statement} : s.isInstruction = true ↔ s.role = .instruction := by
  obtain ⟨origin, label, text⟩ := s
  rw [role_eq_iff]
  constructor
  · intro instruction
    cases text with
    | nil => cases instruction
    | cons c rest => exact .instruction (by simpa [isInstruction] using instruction)
  · intro told
    cases told with
    | instruction plain => simpa [isInstruction] using plain

theorem move?_eq_some {s : Statement} {address : Nat} :
    s.move? = some address ↔ Directive.Written s.text (.address address) ∧ address ≤ 0xFFFF := by
  obtain ⟨origin, label, text⟩ := s
  constructor
  · intro moves
    cases role_eq_iff.mp (role_of_move? moves) with
    | move written room => exact ⟨written, room⟩
  · rintro ⟨written, room⟩
    rw [move?, role_eq_iff.mpr (.move written room)]

theorem move?_eq_none {s : Statement} :
    s.move? = none ↔
      ∀ address : Nat, Directive.Written s.text (.address address) → 0xFFFF < address := by
  rw [Option.eq_none_iff_forall_ne_some]
  apply forall_congr'
  intro address
  rw [Ne, move?_eq_some, not_and, Nat.not_le]

theorem lt_of_move {s : Statement} {address : Nat} (h : s.role = .move address) :
    address < addressLimit := by
  have moves : s.move? = some address := by rw [move?, h]
  exact Nat.lt_succ_of_le (move?_eq_some.mp moves).2

theorem constant?_eq_some {s : Statement} {name : Text} {v : Int} :
    s.constant? = some (name, v) ↔
      Directive.Written s.text (.constant name v) ∧ Literal.InRange v := by
  obtain ⟨origin, label, text⟩ := s
  constructor
  · intro defines
    cases role_eq_iff.mp (role_of_constant? defines) with
    | define written range => exact ⟨written, range⟩
  · rintro ⟨written, range⟩
    rw [constant?, role_eq_iff.mpr (.define written range)]

end Statement

end Anem
