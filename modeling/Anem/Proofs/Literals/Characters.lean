import Anem.Proofs.Literals.Grammar

namespace Anem

namespace Text

/-- The digits of every base up to sixteen, by their value. -/
def lowerDigits : Text := "0123456789abcdef".toList

def upperDigits : Text := "0123456789ABCDEF".toList

def StandsFor (c : Char) (d : Nat) : Prop :=
  lowerDigits[d]? = some c ∨ upperDigits[d]? = some c

/-- One or more digits of a base, the first one counting most, with their number. -/
def Denotes (base : Nat) (t : Text) (n : Nat) : Prop :=
  t ≠ [] ∧ ∃ ds, List.Forall₂ (fun c d => StandsFor c d ∧ d < base) t ds ∧
    n = Nat.ofDigits base ds.reverse

theorem toNat_of_digitValue? {c : Char} {d : Nat} (h : digitValue? c = some d) :
    c.toNat < 0x80 := by
  unfold digitValue? at h
  split at h
  · rename_i digit
    have bounds := toNat_of_isDigit digit
    omega
  · split at h
    · rename_i lower
      have most : c.toNat ≤ 102 := lower.2
      omega
    · split at h
      · rename_i upper
        have most : c.toNat ≤ 70 := upper.2
        omega
      · cases h

theorem digitValue?_eq_some {c : Char} {d : Nat} : digitValue? c = some d ↔ StandsFor c d := by
  constructor
  · intro value
    have all : ∀ n < 0x80, ∀ d ∈ digitValue? (Char.ofNat n),
        lowerDigits[d]? = some (Char.ofNat n) ∨ upperDigits[d]? = some (Char.ofNat n) := by
      decide +kernel
    have own := all c.toNat (toNat_of_digitValue? value) d
    rw [Char.ofNat_toNat] at own
    exact own value
  · intro digit
    have all : ∀ d < 16, lowerDigits[d]?.bind digitValue? = some d ∧
        upperDigits[d]?.bind digitValue? = some d := by decide
    rcases digit with lower | upper
    · have own := (all d (List.getElem?_eq_some_iff.mp lower).1).1
      rw [lower] at own
      exact own
    · have own := (all d (List.getElem?_eq_some_iff.mp upper).1).2
      rw [upper] at own
      exact own

theorem spells_iff {base n : Nat} {t : Text} : Spells base t n ↔ Denotes base t n := by
  have digit : IsDigitOf base = fun c d => StandsFor c d ∧ d < base := by
    funext c d
    rw [IsDigitOf, digitValue?_eq_some]
  rw [Spells, Denotes, digit]

end Text

namespace Literal

open Text

/-- A number as an operand has it: a sign goes with decimal digits only. -/
inductive Numeral : Text → Int → Prop where
  | plain {t : Text} {n : Nat} (digits : Denotes 10 t n) : Numeral t n
  | positive {t : Text} {n : Nat} (digits : Denotes 10 t n) : Numeral ('+' :: t) n
  | negative {t : Text} {n : Nat} (digits : Denotes 10 t n) : Numeral ('-' :: t) (-n)
  | hexadecimal {mark : Char} {t : Text} {n : Nat} (marked : mark = 'x' ∨ mark = 'X')
    (digits : Denotes 16 t n) : Numeral ('0' :: mark :: t) n
  | binary {mark : Char} {t : Text} {n : Nat} (marked : mark = 'b' ∨ mark = 'B')
    (digits : Denotes 2 t n) : Numeral ('0' :: mark :: t) n

theorem written_operand_iff {t : Text} {v : Int} : Written .operand t v ↔ Numeral t v := by
  constructor
  · intro written
    cases written with
    | hexadecimal spelled marked =>
      exact .hexadecimal (marked.symm.imp_left And.right) (spells_iff.mp spelled)
    | binary spelled _ marked =>
      exact .binary (marked.symm.imp_left And.right) (spells_iff.mp spelled)
    | decimal spelled => exact .plain (spells_iff.mp spelled)
    | positive spelled => exact .positive (spells_iff.mp spelled)
    | negative spelled => exact .negative (spells_iff.mp spelled)
  · intro numeral
    cases numeral with
    | plain digits => exact .decimal (spells_iff.mpr digits)
    | positive digits => exact .positive (spells_iff.mpr digits) rfl
    | negative digits => exact .negative (spells_iff.mpr digits) rfl
    | hexadecimal marked digits =>
      exact .hexadecimal (spells_iff.mpr digits) (marked.symm.imp_right fun x => ⟨rfl, x⟩)
        (Or.inl rfl)
    | binary marked digits =>
      exact .binary (spells_iff.mpr digits) rfl (marked.symm.imp_right fun b => ⟨rfl, b⟩)

theorem read?_operand {t : Text} {v : Int} :
    read? .operand t = some v ↔ Numeral t v ∧ InRange v := by
  rw [read?_iff_written, written_operand_iff]

/-- **An operand reads numerals and nothing else.** A text is read as a number
exactly if it is a numeral of this number and the number is a signed one of
sixty-four bits; no other text is read. A number printed in decimal is read back
if it has room. -/
theorem operand_literals_exact :
    (∀ t v, read? .operand t = some v ↔
      Numeral t v ∧ -9223372036854775808 ≤ v ∧ v ≤ 9223372036854775807) ∧
    (∀ t, read? .operand t = none ↔
      ¬ ∃ v, Numeral t v ∧ -9223372036854775808 ≤ v ∧ v ≤ 9223372036854775807) ∧
    ∀ v, read? .operand (signedDecimal v) = some v ↔
      -9223372036854775808 ≤ v ∧ v ≤ 9223372036854775807 := by
  refine ⟨fun t v => read?_operand, ?_, ?_⟩
  · intro t
    rw [Option.eq_none_iff_forall_ne_some, not_exists]
    exact forall_congr' fun v => not_congr read?_operand
  · intro v
    rw [read?_eq_some, denote?_signedDecimal .operand (Or.inl rfl)]
    exact and_iff_right rfl

end Literal

end Anem
