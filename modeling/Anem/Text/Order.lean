import Anem.Text.Basic

namespace Anem.Text

def precedes : Text → Text → Bool
  | _, [] => false
  | [], _ :: _ => true
  | a :: s, b :: t => if a = b then precedes s t else a.toNat < b.toNat

theorem precedes_irrefl (s : Text) : precedes s s = false := by
  induction s with
  | nil => rfl
  | cons a s ih => simp [precedes, ih]

theorem precedes_trans {s t u : Text} (hst : precedes s t = true) (htu : precedes t u = true) :
    precedes s u = true := by
  induction s generalizing t u with
  | nil => cases t <;> cases u <;> simp_all [precedes]
  | cons a s ih =>
    cases t with
    | nil => simp [precedes] at hst
    | cons b t =>
      cases u with
      | nil => simp [precedes] at htu
      | cons c u =>
        simp only [precedes] at hst htu ⊢
        split at hst <;> split at htu
        · simp_all only [↓reduceIte]
          exact ih hst htu
        · simp_all
        · simp_all
        · rename_i hab hbc
          have hac : a ≠ c := by
            rintro rfl
            simp only [decide_eq_true_eq] at hst htu
            omega
          simp only [if_neg hac, decide_eq_true_eq] at hst htu ⊢
          omega

/-- Of two different names one comes first. -/
theorem precedes_total {s t : Text} (ne : s ≠ t) (not : precedes s t = false) :
    precedes t s = true := by
  induction s generalizing t with
  | nil => cases t <;> simp_all [precedes]
  | cons a s ih =>
    cases t with
    | nil => rfl
    | cons b t =>
      by_cases h : a = b
      · subst h
        simp only [precedes, ↓reduceIte] at not ⊢
        exact ih (fun e => ne (e ▸ rfl)) not
      · have differ : a.toNat ≠ b.toNat := fun e => h (Char.toNat_inj.mp e)
        simp only [precedes, if_neg h, if_neg (Ne.symm h), decide_eq_true_eq,
          decide_eq_false_iff_not] at not ⊢
        omega

end Anem.Text
