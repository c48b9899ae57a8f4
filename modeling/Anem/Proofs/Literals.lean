import Anem.Proofs.Text.Numerals

namespace Anem

namespace Text

theorem isAlphanum_eq (c : Char) : c.isAlphanum = (c.isUpper || c.isLower || c.isDigit) := rfl

theorem isAlphanum_of_digitValue? {c : Char} {d : Nat} (h : digitValue? c = some d) :
    c.isAlphanum = true := by
  unfold digitValue? at h
  split at h
  · rename_i digit
    rw [isAlphanum_eq, digit, Bool.or_true]
  · split at h
    · rename_i range
      have bounds : 97 ≤ c.toNat ∧ c.toNat ≤ 102 := range
      have lower : c.isLower = true :=
        Bool.and_eq_true_iff.mpr ⟨decide_eq_true bounds.1, decide_eq_true (show c.toNat ≤ 122 by omega)⟩
      rw [isAlphanum_eq, lower, Bool.or_true, Bool.true_or]
    · split at h
      · rename_i range
        have bounds : 65 ≤ c.toNat ∧ c.toNat ≤ 70 := range
        have upper : c.isUpper = true := decide_eq_true ⟨bounds.1, show c.toNat ≤ 90 by omega⟩
        rw [isAlphanum_eq, upper, Bool.true_or, Bool.true_or]
      · cases h

/-- A number is read from digits of its base only. -/
theorem digit_of_readFrom? {base n m : Nat} {digits : Text}
    (h : readFrom? base n digits = some m) :
    ∀ c ∈ digits, ∃ d, digitValue? c = some d ∧ d < base := by
  induction digits generalizing n with
  | nil =>
    intro c hc
    cases hc
  | cons first digits ih =>
    obtain ⟨next, own, rest⟩ : ∃ next, appendDigit? base n first = some next ∧
        readFrom? base next digits = some m := by
      simpa [readFrom?, Option.bind_eq_some_iff] using h
    intro c hc
    rcases List.mem_cons.mp hc with rfl | hc
    · unfold appendDigit? at own
      split at own
      · rename_i d found
        split at own
        · exact ⟨d, found, ‹_›⟩
        · cases own
      · cases own
    · exact ih rest c hc

theorem digit_of_readDigits? {base m : Nat} {digits : Text}
    (h : readDigits? base digits = some m) :
    digits ≠ [] ∧ ∀ c ∈ digits, ∃ d, digitValue? c = some d ∧ d < base := by
  unfold readDigits? at h
  split at h
  · cases h
  · rename_i present
    exact ⟨by simpa using present, digit_of_readFrom? h⟩

theorem isDigit_of_digitValue? {c : Char} {d : Nat} (h : digitValue? c = some d) (small : d < 10) :
    c.isDigit = true := by
  unfold digitValue? at h
  split at h
  · assumption
  · split at h
    · rename_i lower
      have least : 97 ≤ c.toNat := lower.1
      cases h
      omega
    · split at h
      · rename_i upper
        have least : 65 ≤ c.toNat := upper.1
        cases h
        omega
      · cases h

/-- One more decimal digit. -/
theorem appendDigit?_eq_some {n m : Nat} {c : Char} :
    appendDigit? 10 n c = some m ↔ c.isDigit = true ∧ m = n * 10 + (c.toNat - 0x30) := by
  constructor
  · intro h
    unfold appendDigit? at h
    split at h
    · rename_i d value
      split at h
      · rename_i small
        have digit := isDigit_of_digitValue? value small
        rw [digitValue?, if_pos digit] at value
        cases value
        cases h
        exact ⟨digit, rfl⟩
      · cases h
    · cases h
  · rintro ⟨digit, rfl⟩
    have bounds := toNat_of_isDigit digit
    have value : digitValue? c = some (c.toNat - 0x30) := by rw [digitValue?, if_pos digit]
    simp only [appendDigit?, value]
    rw [if_pos (by omega)]

theorem isLower_of_isDigit {c : Char} (h : c.isDigit = true) : c.isLower = false := by
  have bounds := toNat_of_isDigit h
  apply Bool.eq_false_iff.mpr
  intro lower
  have least : 97 ≤ c.toNat := of_decide_eq_true (Bool.and_eq_true_iff.mp lower).1
  omega

end Text

namespace Literal

open Text

/-- The characters after the sign of a literal: letters and digits, and letters
in lower case only where the style admits them. -/
def IsBody (style : Style) (t : Text) : Prop :=
  t ≠ [] ∧ ∀ c ∈ t, c.isAlphanum = true ∧ (style.anyCase = true ∨ c.isLower = false)

theorem body_of_decimal {style : Style} {digits : Text} {v : Int} {f : Nat → Int}
    (h : (readDigits? 10 digits).map f = some v) : IsBody style digits := by
  obtain ⟨n, read, -⟩ := Option.map_eq_some_iff.mp h
  obtain ⟨present, each⟩ := digit_of_readDigits? read
  refine ⟨present, ?_⟩
  intro c hc
  obtain ⟨d, value, small⟩ := each c hc
  have digit := isDigit_of_digitValue? value small
  exact ⟨isAlphanum_of_digitValue? value, Or.inr (isLower_of_isDigit digit)⟩

theorem body_of_radix {style : Style} {t digits : Text} {radix : Nat} {v : Int}
    (cut : cutRadix? style t = some (radix, digits)) (h : readRadix? style radix digits = some v) :
    IsBody style t := by
  have marked : ∃ mark, t = '0' :: mark :: digits ∧ (mark = 'X' ∨ style.anyCase = true ∧ mark = 'x' ∨
      mark = 'B' ∨ style.anyCase = true ∧ mark = 'b') := by
    unfold cutRadix? at cut
    split at cut
    · rename_i mark rest
      split at cut
      · rename_i hex
        cases cut
        exact ⟨mark, rfl, hex.imp_right Or.inl⟩
      · split at cut
        · rename_i binary
          cases cut
          exact ⟨mark, rfl, Or.inr (Or.inr binary.2)⟩
        · cases cut
    · cases cut
  obtain ⟨mark, rfl, known⟩ := marked
  unfold readRadix? at h
  split at h
  · rename_i cased
    obtain ⟨n, read, -⟩ := Option.map_eq_some_iff.mp h
    obtain ⟨-, each⟩ := digit_of_readDigits? read
    refine ⟨List.cons_ne_nil _ _, ?_⟩
    intro c hc
    rcases List.mem_cons.mp hc with rfl | hc
    · exact ⟨rfl, Or.inr rfl⟩
    rcases List.mem_cons.mp hc with rfl | hc
    · rcases known with rfl | ⟨any, rfl⟩ | rfl | ⟨any, rfl⟩
      · exact ⟨rfl, Or.inr rfl⟩
      · exact ⟨rfl, Or.inl any⟩
      · exact ⟨rfl, Or.inr rfl⟩
      · exact ⟨rfl, Or.inl any⟩
    · obtain ⟨d, value, -⟩ := each c hc
      refine ⟨isAlphanum_of_digitValue? value, ?_⟩
      rcases Bool.or_eq_true_iff.mp cased with any | plain
      · exact Or.inl any
      · exact Or.inr (by simpa using List.all_eq_true.mp plain c hc)
  · cases h

/-- A literal is a sign or none, and letters and digits. -/
theorem form_of_denote? {style : Style} {t : Text} {v : Int} (h : denote? style t = some v) :
    ∃ sign body, t = sign ++ body ∧ (sign = [] ∨ sign = ['+'] ∨ sign = ['-']) ∧
      IsBody style body := by
  unfold denote? at h
  split at h
  · rename_i radix digits cut
    exact ⟨[], t, rfl, Or.inl rfl, body_of_radix cut h⟩
  · unfold readDecimal? at h
    split at h
    · split at h
      · exact ⟨['-'], _, rfl, Or.inr (Or.inr rfl), body_of_decimal h⟩
      · cases h
    · split at h
      · exact ⟨['+'], _, rfl, Or.inr (Or.inl rfl), body_of_decimal h⟩
      · cases h
    · exact ⟨[], t, rfl, Or.inl rfl, body_of_decimal h⟩

end Literal

end Anem
