/-!
Source text is a list of characters, so that every reader and printer is a
recursion on it. A set of characters is a list of ranges of code points.
-/
namespace Anem

/-- Source text, names, operands and listings. -/
abbrev Text := List Char

/-- A set of characters: inclusive ranges of code points, in ascending order. -/
abbrev CharSet := List (Nat × Nat)

namespace CharSet

def contains (set : CharSet) (c : Char) : Bool :=
  set.any fun range => range.1 ≤ c.toNat && c.toNat ≤ range.2

theorem contains_iff (set : CharSet) (c : Char) :
    set.contains c = true ↔ ∃ range ∈ set, range.1 ≤ c.toNat ∧ c.toNat ≤ range.2 := by
  simp [contains, List.any_eq_true, Bool.and_eq_true]

end CharSet

namespace Text

/-- Letters, digits and the underscore of the basic alphabet. -/
def isNameChar (c : Char) : Bool :=
  c.isAlphanum || c == '_'

/-- A name that an operand can refer to: one or more name characters. -/
def isIdentifier (t : Text) : Bool :=
  !t.isEmpty && t.all isNameChar

def after? : (front : Text) → Text → Option Text
  | [], t => some t
  | _ :: _, [] => none
  | f :: front, c :: t => if f = c then after? front t else none

theorem after?_eq_some {front t rest : Text} : after? front t = some rest ↔ t = front ++ rest := by
  induction front generalizing t with
  | nil => simp [after?]
  | cons f front ih =>
    cases t with
    | nil => simp [after?]
    | cons c t =>
      by_cases h : f = c
      · simp [after?, h, ih]
      · simp [after?, h, Ne.symm h]

/-- The text before and after the first `mark`, which is in neither. -/
def cutAt? (mark : Char) : Text → Option (Text × Text)
  | [] => none
  | c :: t => if c = mark then some ([], t) else (cutAt? mark t).map fun p => (c :: p.1, p.2)

theorem cutAt?_eq_some {mark : Char} {t front rest : Text} :
    cutAt? mark t = some (front, rest) ↔ mark ∉ front ∧ t = front ++ mark :: rest := by
  induction t generalizing front with
  | nil => simp [cutAt?]
  | cons c t ih =>
    by_cases h : c = mark
    · subst h
      cases front with
      | nil => simp [cutAt?]
      | cons d front => simp [cutAt?]; grind
    · cases front with
      | nil => simp [cutAt?, h]
      | cons d front => simp [cutAt?, h, ih]; grind

/-- The pieces between the marks: one more than there are marks. -/
def splitAt (mark : Char) (t : Text) : List Text :=
  t.foldr (fun c pieces =>
    if c = mark then [] :: pieces
    else match pieces with
      | [] => [[c]]
      | piece :: others => (c :: piece) :: others) [[]]

end Text

end Anem
