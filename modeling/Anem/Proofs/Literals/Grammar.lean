import Mathlib.Data.List.Forall2
import Mathlib.Data.Nat.Digits.Defs
import Mathlib.Tactic.Ring
import Anem.Proofs.Literals

/-!
The grammar of number literals, apart from how they are read. `Spells` gives
digits their value by place, and `Literal.Written` says which signs, radix marks
and cases a style admits. Reading accepts exactly these texts.
-/
namespace Anem

namespace Text

/-- A digit of the base with its value. -/
def IsDigitOf (base : Nat) (c : Char) (d : Nat) : Prop :=
  digitValue? c = some d ∧ d < base

/-- One or more digits of a base, the most significant first, with their number. -/
def Spells (base : Nat) (t : Text) (n : Nat) : Prop :=
  t ≠ [] ∧ ∃ ds, List.Forall₂ (IsDigitOf base) t ds ∧ n = Nat.ofDigits base ds.reverse

theorem appendDigit?_iff {base n m : Nat} {c : Char} :
    appendDigit? base n c = some m ↔ ∃ d, IsDigitOf base c d ∧ m = n * base + d := by
  rw [appendDigit?]
  constructor
  · intro h
    split at h
    · rename_i d value
      split at h
      · rename_i small
        cases h
        exact ⟨d, ⟨value, small⟩, rfl⟩
      · cases h
    · cases h
  · rintro ⟨d, ⟨value, small⟩, rfl⟩
    simp only [value, if_pos small]

/-- Reading digit by digit adds up the places. -/
theorem readFrom?_iff {base n m : Nat} {t : Text} :
    readFrom? base n t = some m ↔ ∃ ds, List.Forall₂ (IsDigitOf base) t ds ∧
      m = n * base ^ ds.length + Nat.ofDigits base ds.reverse := by
  induction t generalizing n with
  | nil => simp [readFrom?, List.forall₂_nil_left_iff, eq_comm]
  | cons c t ih =>
    have place (d : Nat) (ds : List Nat) :
        (n * base + d) * base ^ ds.length + Nat.ofDigits base ds.reverse =
          n * base ^ (d :: ds).length + Nat.ofDigits base (d :: ds).reverse := by
      rw [List.reverse_cons, Nat.ofDigits_append, Nat.ofDigits_singleton, List.length_reverse,
        List.length_cons]
      ring
    have step : readFrom? base n (c :: t) = some m ↔
        ∃ next, appendDigit? base n c = some next ∧ readFrom? base next t = some m := by
      simp [readFrom?, Option.bind_eq_some_iff]
    simp only [step, ih, appendDigit?_iff]
    constructor
    · rintro ⟨_, ⟨d, digit, rfl⟩, ds, digits, rfl⟩
      exact ⟨d :: ds, .cons digit digits, place d ds⟩
    · rintro ⟨_, digits, rfl⟩
      cases digits with
      | @cons _ d _ ds digit digits =>
        exact ⟨_, ⟨d, digit, rfl⟩, ds, digits, (place d ds).symm⟩

theorem readDigits?_eq_some {base n : Nat} {t : Text} :
    readDigits? base t = some n ↔ Spells base t n := by
  rw [readDigits?]
  split
  · rename_i empty
    simp [Spells, List.isEmpty_iff.mp empty]
  · rename_i present
    rw [readFrom?_iff, Spells]
    simp only [Nat.zero_mul, Nat.zero_add]
    exact (and_iff_right (by simpa using present)).symm

end Text

namespace Literal

open Text

/-- A literal of the style, with its number. -/
inductive Written (style : Style) : Text → Int → Prop where
  | hexadecimal {mark : Char} {digits : Text} {n : Nat} (spelled : Spells 16 digits n)
    (marked : mark = 'X' ∨ style.anyCase = true ∧ mark = 'x')
    (cased : style.anyCase = true ∨ ∀ c ∈ digits, c.isLower = false) :
    Written style ('0' :: mark :: digits) n
  | binary {mark : Char} {digits : Text} {n : Nat} (spelled : Spells 2 digits n)
    (admitted : style.binary = true) (marked : mark = 'B' ∨ style.anyCase = true ∧ mark = 'b') :
    Written style ('0' :: mark :: digits) n
  | decimal {digits : Text} {n : Nat} (spelled : Spells 10 digits n) : Written style digits n
  | positive {digits : Text} {n : Nat} (spelled : Spells 10 digits n)
    (signed : style.signed = true) : Written style ('+' :: digits) n
  | negative {digits : Text} {n : Nat} (spelled : Spells 10 digits n)
    (signed : style.signed = true) : Written style ('-' :: digits) (-n)

end Literal

theorem Text.Spells.digit {base n : Nat} {t : Text} (h : Spells base t n) (small : base ≤ 10) :
    ∀ c ∈ t, c.isDigit = true := by
  intro c hc
  obtain ⟨d, value, below⟩ := (digit_of_readDigits? (readDigits?_eq_some.mpr h)).2 c hc
  exact isDigit_of_digitValue? value (by omega)

namespace Literal

open Text

theorem written_of_readRadix? {style : Style} {t digits : Text} {radix : Nat} {v : Int}
    (cut : cutRadix? style t = some (radix, digits)) (h : readRadix? style radix digits = some v) :
    Written style t v := by
  unfold readRadix? at h
  split at h
  · rename_i cased
    obtain ⟨n, read, rfl⟩ := Option.map_eq_some_iff.mp h
    have spelled := readDigits?_eq_some.mp read
    unfold cutRadix? at cut
    split at cut
    · split at cut
      · rename_i marked
        cases cut
        exact .hexadecimal spelled marked (by simpa using cased)
      · split at cut
        · rename_i marked
          cases cut
          exact .binary spelled marked.1 marked.2
        · cases cut
    · cases cut
  · cases h

theorem written_of_readDecimal? {style : Style} {t : Text} {v : Int}
    (h : readDecimal? style t = some v) : Written style t v := by
  unfold readDecimal? at h
  split at h
  · split at h
    · rename_i signed
      obtain ⟨n, read, rfl⟩ := Option.map_eq_some_iff.mp h
      exact .negative (readDigits?_eq_some.mp read) signed
    · cases h
  · split at h
    · rename_i signed
      obtain ⟨n, read, rfl⟩ := Option.map_eq_some_iff.mp h
      exact .positive (readDigits?_eq_some.mp read) signed
    · cases h
  · obtain ⟨n, read, rfl⟩ := Option.map_eq_some_iff.mp h
    exact .decimal (readDigits?_eq_some.mp read)

/-- A literal denotes the number with which it is written. -/
theorem denote?_eq_some {style : Style} {t : Text} {v : Int} :
    denote? style t = some v ↔ Written style t v := by
  constructor
  · intro h
    unfold denote? at h
    split at h
    · rename_i cut
      exact written_of_readRadix? cut h
    · exact written_of_readDecimal? h
  · intro h
    cases h with
    | @hexadecimal mark digits n spelled marked cased =>
      have cut : cutRadix? style ('0' :: mark :: digits) = some (16, digits) := if_pos marked
      have admitted : (style.anyCase || digits.all (! ·.isLower)) = true := by simpa using cased
      simp only [denote?, cut, readRadix?, admitted, if_true, readDigits?_eq_some.mpr spelled]
      rfl
    | @binary mark digits n spelled admitted marked =>
      have other : ¬ (mark = 'X' ∨ style.anyCase = true ∧ mark = 'x') := by
        rcases marked with rfl | ⟨-, rfl⟩
        · simp
        · simp
      have cut : cutRadix? style ('0' :: mark :: digits) = some (2, digits) :=
        (if_neg other).trans (if_pos ⟨admitted, marked⟩)
      have cased : (style.anyCase || digits.all (! ·.isLower)) = true := by
        have none : ∀ c ∈ digits, c.isLower = false :=
          fun c hc => isLower_of_isDigit (spelled.digit (by decide) c hc)
        simpa using Or.inr none
      simp only [denote?, cut, readRadix?, cased, if_true, readDigits?_eq_some.mpr spelled]
      rfl
    | decimal spelled =>
      have digits := spelled.digit (Nat.le_refl 10)
      simp only [denote?, cutRadix?_of_digits style digits, readDecimal?_of_digits style digits,
        readDigits?_eq_some.mpr spelled]
      rfl
    | @positive digits n spelled signed =>
      have noMark : cutRadix? style ('+' :: digits) = none := rfl
      simp only [denote?, noMark, readDecimal?, signed, if_true, readDigits?_eq_some.mpr spelled]
      rfl
    | @negative digits n spelled signed =>
      have noMark : cutRadix? style ('-' :: digits) = none := rfl
      simp only [denote?, noMark, readDecimal?, signed, if_true, readDigits?_eq_some.mpr spelled]
      rfl

theorem read?_iff_written {style : Style} {t : Text} {v : Int} :
    read? style t = some v ↔ Written style t v ∧ InRange v := by
  rw [read?_eq_some, denote?_eq_some, InRange]

/-- An unsigned literal denotes no negative number. -/
theorem Written.nonneg {style : Style} (unsigned : style.signed = false) {t : Text} {v : Int}
    (written : Written style t v) : 0 ≤ v := by
  cases written with
  | hexadecimal | binary | decimal => exact Int.natCast_nonneg _
  | positive _ signed | negative _ signed =>
    rw [unsigned] at signed
    cases signed

end Literal

end Anem
