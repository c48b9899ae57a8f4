import Anem.Proofs.Journal

namespace Anem.Journal

/-- Two journals with the same flag and the same counts. -/
structure Alike (j k : Journal) : Prop where
  fatal : j.fatal = k.fatal
  errors : j.errors = k.errors
  warnings : j.warnings = k.warnings

variable {j k : Journal}

theorem Alike.trans {i : Journal} (first : Alike i j) (second : Alike j k) : Alike i k :=
  ⟨first.fatal.trans second.fatal, first.errors.trans second.errors,
    first.warnings.trans second.warnings⟩

theorem Alike.status (h : Alike j k) : j.status = k.status := by
  rw [Journal.status, Journal.status, h.errors, h.warnings]

/-- A message that is neither an error nor a warning leaves the standing as it is. -/
theorem alike_info (j : Journal) (message : Text) : Alike (j.post (.info message)).2 j :=
  ⟨rfl, rfl, rfl⟩

/-- The step lemma: the same answer, and the same standing again. -/
theorem Alike.post (h : Alike j k) (e : Event) :
    (j.post e).1 = (k.post e).1 ∧ Alike (j.post e).2 (k.post e).2 := by
  cases e with
  | error line cause =>
    by_cases strict : k.fatal = true
    · rw [Journal.post, Journal.post, if_pos strict, if_pos (h.fatal.trans strict)]
      exact ⟨rfl, h.fatal, congrArg (· + 1) h.errors, h.warnings⟩
    · rw [Journal.post, Journal.post, if_neg strict, if_neg (h.fatal ▸ strict)]
      exact ⟨rfl, h.fatal, congrArg (· + 1) h.errors, h.warnings⟩
  | fatal line cause => exact ⟨rfl, rfl, congrArg (· + 1) h.errors, h.warnings⟩
  | warning line message => exact ⟨rfl, h.fatal, h.errors, congrArg (· + 1) h.warnings⟩
  | info message => exact ⟨rfl, h.fatal, h.errors, h.warnings⟩
  | debug message => exact ⟨rfl, h.fatal, h.errors, h.warnings⟩

theorem Alike.absorb (h : Alike j k) (es : List Event) :
    (j.absorb es).1 = (k.absorb es).1 ∧ Alike (j.absorb es).2 (k.absorb es).2 := by
  induction es generalizing j k with
  | nil => exact ⟨rfl, h⟩
  | cons e es ih =>
    obtain ⟨same, next⟩ := h.post e
    simp only [Journal.absorb]
    rcases left : j.post e with ⟨answer, after⟩
    rcases right : k.post e with ⟨other, after'⟩
    rw [left, right] at same next
    obtain rfl : answer = other := same
    cases answer with
    | none => exact ih next
    | some abort => exact ⟨rfl, next⟩

/-- A pass has the same result in both. -/
theorem Alike.commit {α : Type} (h : Alike j k) (t : Traced α) :
    (t.commit j).1 = (t.commit k).1 ∧ Alike (t.commit j).2 (t.commit k).2 := by
  obtain ⟨same, next⟩ := h.absorb t.events.toList
  simp only [Traced.commit]
  rcases left : j.absorb t.events.toList with ⟨answer, after⟩
  rcases right : k.absorb t.events.toList with ⟨other, after'⟩
  rw [left, right] at same next
  obtain rfl : answer = other := same
  cases answer with
  | none => exact ⟨rfl, next⟩
  | some abort => exact ⟨rfl, next⟩

end Anem.Journal
