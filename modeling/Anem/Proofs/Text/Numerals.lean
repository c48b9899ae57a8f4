import Anem.Literal
import Anem.Word
import Anem.Proofs.Text.Pieces

namespace Anem

namespace Text

/-- The visible part of the basic alphabet holds no blank. -/
theorem isBlank_of_visible {c : Char} (above : 0x20 < c.toNat) (below : c.toNat < 0x7F) :
    isBlank c = false := by
  apply Bool.eq_false_iff.mpr
  intro h
  obtain ⟨range, mem, lo, hi⟩ := (CharSet.contains_iff blanks c).mp h
  simp only [blanks, List.mem_cons, List.not_mem_nil, or_false] at mem
  rcases mem with rfl | rfl | rfl | rfl | rfl | rfl | rfl | rfl | rfl | rfl <;>
    simp only at lo hi <;> omega

theorem toNat_of_isDigit {c : Char} (h : c.isDigit = true) : 0x30 ≤ c.toNat ∧ c.toNat ≤ 0x39 := by
  simp only [Char.isDigit, Bool.and_eq_true, decide_eq_true_eq, UInt32.le_iff_toNat_le] at h
  exact h

theorem isBlank_of_isDigit {c : Char} (h : c.isDigit = true) : isBlank c = false := by
  obtain ⟨lo, hi⟩ := toNat_of_isDigit h
  exact isBlank_of_visible (by omega) (by omega)

theorem isDigit_of_mem_decimal {n : Nat} {c : Char} (h : c ∈ decimal n) : c.isDigit = true :=
  Nat.isDigit_of_mem_toDigits (by decide) (by decide) h

theorem decimal_ne_nil (n : Nat) : decimal n ≠ [] :=
  Nat.toDigits_ne_nil

theorem solid_decimal (n : Nat) : Solid (decimal n) :=
  ⟨decimal_ne_nil n, fun _ hc => isBlank_of_isDigit (isDigit_of_mem_decimal hc)⟩

theorem solid_signedDecimal (v : Int) : Solid (signedDecimal v) := by
  unfold signedDecimal
  split
  · exact Solid.cons (by decide) (solid_decimal _)
  · exact solid_decimal _

/-- A printed number holds digits, and a dash at most. -/
theorem mem_signedDecimal {v : Int} {c : Char} (h : c ∈ signedDecimal v) :
    c = '-' ∨ c.isDigit = true := by
  unfold signedDecimal at h
  split at h
  · exact (List.mem_cons.mp h).imp_right isDigit_of_mem_decimal
  · exact Or.inr (isDigit_of_mem_decimal h)

theorem digitValue?_natDigitChar {d : Nat} (h : d < 10) : digitValue? d.digitChar = some d := by
  have all : ∀ e ∈ List.range 10, digitValue? e.digitChar = some e := by decide
  exact all d (List.mem_range.mpr h)

theorem appendDigit?_natDigitChar (n : Nat) {d : Nat} (h : d < 10) :
    appendDigit? 10 n d.digitChar = some (n * 10 + d) := by
  simp [appendDigit?, digitValue?_natDigitChar h, h]

theorem readFrom?_decimal (n : Nat) : readFrom? 10 0 (decimal n) = some n := by
  induction n using Nat.strongRecOn with
  | ind n ih =>
    by_cases h : n < 10
    · simp [decimal, Nat.toDigits_of_lt_base h, readFrom?, appendDigit?_natDigitChar 0 h]
    · have front := ih (n / 10) (by omega)
      have last := appendDigit?_natDigitChar (n / 10) (Nat.mod_lt n (by decide : 10 > 0))
      rw [decimal, readFrom?] at front ⊢
      rw [Nat.toDigits_of_base_le (by decide) (by omega), List.foldlM_append, front]
      simp only [Option.bind_eq_bind, Option.bind_some, List.foldlM_cons, List.foldlM_nil, last]
      exact congrArg some (by omega)

theorem readDigits?_decimal (n : Nat) : readDigits? 10 (decimal n) = some n := by
  rw [readDigits?, if_neg (by simpa using decimal_ne_nil n), readFrom?_decimal]

theorem mem_fixedDigits_two {width n : Nat} {c : Char} (h : c ∈ fixedDigits 2 width n) :
    c = '0' ∨ c = '1' := by
  induction width generalizing n with
  | zero => cases h
  | succ width ih =>
    rcases List.mem_append.mp h with front | last
    · exact ih front
    · rw [List.mem_singleton.mp last]
      rcases Nat.mod_two_eq_zero_or_one n with even | odd
      · rw [even]
        exact Or.inl rfl
      · rw [odd]
        exact Or.inr rfl

end Text

namespace Word

theorem isDigit_of_mem_binary {w : Word} {c : Char} (h : c ∈ w.binary) : c.isDigit = true := by
  rcases Text.mem_fixedDigits_two h with rfl | rfl
  · rfl
  · rfl

theorem solid_binary (w : Word) : Text.Solid w.binary := by
  refine ⟨?_, fun c hc => Text.isBlank_of_isDigit (isDigit_of_mem_binary hc)⟩
  rw [← List.length_pos_iff, binary, Text.length_fixedDigits]
  decide

end Word

namespace Literal

open Text

theorem cutRadix?_of_digits (style : Style) {t : Text} (h : ∀ c ∈ t, c.isDigit = true) :
    cutRadix? style t = none := by
  unfold cutRadix?
  split
  · rename_i mark digits
    have hm := toNat_of_isDigit (h mark (by simp))
    have other : ∀ d : Char, 0x39 < d.toNat → mark ≠ d := by
      rintro d above rfl
      omega
    have hX := other 'X' (by decide)
    have hx := other 'x' (by decide)
    have hB := other 'B' (by decide)
    have hb := other 'b' (by decide)
    simp [hX, hx, hB, hb]
  · rfl

theorem readDecimal?_of_digits (style : Style) {t : Text} (h : ∀ c ∈ t, c.isDigit = true) :
    readDecimal? style t = (readDigits? 10 t).map Int.ofNat := by
  unfold readDecimal?
  split
  · exact absurd (h '-' List.mem_cons_self) (by decide)
  · exact absurd (h '+' List.mem_cons_self) (by decide)
  · rfl

theorem denote?_signedDecimal (style : Style) {v : Int} (h : style.signed = true ∨ 0 ≤ v) :
    denote? style (signedDecimal v) = some v := by
  have digits := fun c (hc : c ∈ decimal v.natAbs) => isDigit_of_mem_decimal hc
  by_cases neg : v < 0
  · have signed : style.signed = true := h.resolve_right (by omega)
    have front : cutRadix? style ('-' :: decimal v.natAbs) = none := rfl
    simp only [signedDecimal, if_pos neg, denote?, front, readDecimal?, signed, if_true,
      readDigits?_decimal, Option.map_some]
    have magnitude : -(v.natAbs : Int) = v := by omega
    exact congrArg some magnitude
  · simp only [signedDecimal, if_neg neg, denote?, cutRadix?_of_digits style digits,
      readDecimal?_of_digits style digits, readDigits?_decimal, Option.map_some]
    have magnitude : (v.natAbs : Int) = v := by omega
    exact congrArg some magnitude

/-- The numbers that a literal can denote. -/
def InRange (v : Int) : Prop := least ≤ v ∧ v ≤ greatest

theorem inRange_of_small {v : Int} (lo : -0x10000 ≤ v) (hi : v ≤ 0x10000) : InRange v := by
  simp only [InRange, least, greatest]
  omega

theorem read?_signedDecimal (style : Style) {v : Int} (range : InRange v)
    (h : style.signed = true ∨ 0 ≤ v) : read? style (signedDecimal v) = some v :=
  read?_eq_some.mpr ⟨denote?_signedDecimal style h, range⟩

theorem inRange_of_read? {style : Style} {t : Text} {v : Int} (h : read? style t = some v) :
    InRange v :=
  (read?_eq_some.mp h).2

end Literal

end Anem
