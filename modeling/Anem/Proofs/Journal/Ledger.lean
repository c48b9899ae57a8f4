import Anem.Journal

/-!
What a journal keeps whoever looks at it. Apart from the verbosity all of it
follows from the flag and the records: the counts are those of the records, and
what is shown is the records that the verbosity admits. Work that goes through a
journal by its events keeps it so, and does not notice the verbosity.
-/
namespace Anem

/-- A higher verbosity admits more. -/
theorem Verbosity.admits_of_le {v w : Verbosity} (le : v.rank ≤ w.rank) {s : Severity}
    (admitted : v.admits s = true) : w.admits s = true := by
  simp only [admits, decide_eq_true_eq] at admitted ⊢
  omega

/-- The flag and the records of a journal. -/
structure Ledger where
  fatal : Bool
  records : List Record

namespace Ledger

def add (l : Ledger) (r : Record) : Ledger :=
  { l with records := l.records ++ [r] }

/-- The journal that keeps these records and shows what its verbosity admits. -/
def journal (l : Ledger) (v : Verbosity) : Journal where
  verbosity := v
  errors := l.records.countP fun r => r.severity = .error
  warnings := l.records.countP fun r => r.severity = .warning
  fatal := l.fatal
  records := l.records.toArray
  surfaced := (l.records.filter fun r => v.admits r.severity).toArray

theorem journal_add (l : Ledger) (r : Record) (v : Verbosity) :
    (l.add r).journal v =
      { (l.journal v).record r with
        errors := (l.journal v).errors + if r.severity = .error then 1 else 0
        warnings := (l.journal v).warnings + if r.severity = .warning then 1 else 0 } := by
  by_cases admitted : v.admits r.severity = true
  · simp [journal, add, Journal.record, List.countP_append, List.countP_singleton, admitted]
  · simp [journal, add, Journal.record, List.countP_append, List.countP_singleton, admitted]

/-- A lower verbosity shows those of a higher one that it admits. -/
theorem surfaced_of_le (l : Ledger) {v w : Verbosity} (le : v.rank ≤ w.rank) :
    (l.journal v).surfaced.toList =
      (l.journal w).surfaced.toList.filter fun r => v.admits r.severity := by
  simp only [journal, List.filter_filter]
  apply List.filter_congr
  intro r _
  by_cases admitted : v.admits r.severity = true
  · rw [admitted, Verbosity.admits_of_le le admitted]
    rfl
  · rw [Bool.not_eq_true] at admitted
    rw [admitted]
    rfl

end Ledger

namespace Journal

/-- Work on a journal whose result does not depend on the verbosity, and which
keeps the books: from one ledger to another, and never from a fatal one to one
that is not. -/
def Impartial {α : Type} (work : Journal → α × Journal) : Prop :=
  ∀ l : Ledger, ∃ a k, (l.fatal = true → k.fatal = true) ∧
    ∀ v, work (l.journal v) = (a, Ledger.journal k v)

theorem impartial_setFatal : Impartial fun j => ((), j.setFatal) :=
  fun l => ⟨(), { l with fatal := true }, fun _ => rfl, fun _ => rfl⟩

theorem Impartial.map {α β : Type} {work : Journal → α × Journal} (h : Impartial work)
    (f : α → β) : Impartial fun j => (f (work j).1, (work j).2) := by
  intro l
  obtain ⟨a, k, flag, same⟩ := h l
  refine ⟨f a, k, flag, ?_⟩
  intro v
  simp only [same v]

theorem impartial_post (e : Event) : Impartial fun j => j.post e := by
  intro l
  cases e with
  | error line cause =>
    by_cases fatal : l.fatal = true
    · refine ⟨some ⟨line, cause⟩, l.add ⟨.error, some line, fatalMark ++ cause.message⟩, id, ?_⟩
      intro v
      have strict : (l.journal v).fatal = true := fatal
      simp only [post, if_pos strict, Ledger.journal_add]
      rfl
    · refine ⟨none, l.add ⟨.error, some line, cause.message⟩, id, ?_⟩
      intro v
      have calm : ¬ (l.journal v).fatal = true := fatal
      simp only [post, if_neg calm, Ledger.journal_add]
      rfl
  | fatal line cause =>
    refine ⟨some ⟨line, cause⟩,
      Ledger.add ⟨true, l.records⟩ ⟨.error, some line, fatalMark ++ cause.message⟩,
      fun _ => rfl, ?_⟩
    intro v
    rw [Ledger.journal_add]
    rfl
  | warning line message =>
    refine ⟨none, l.add ⟨.warning, line, message⟩, id, ?_⟩
    intro v
    rw [Ledger.journal_add]
    rfl
  | info message =>
    refine ⟨none, l.add ⟨.info, none, message⟩, id, ?_⟩
    intro v
    rw [Ledger.journal_add]
    rfl
  | debug message =>
    refine ⟨none, l.add ⟨.debug, none, message⟩, id, ?_⟩
    intro v
    rw [Ledger.journal_add]
    rfl

theorem impartial_absorb (es : List Event) : Impartial fun j => j.absorb es := by
  induction es with
  | nil => exact fun l => ⟨none, l, id, fun _ => rfl⟩
  | cons e es ih =>
    intro l
    obtain ⟨abort, middle, flag, posted⟩ := impartial_post e l
    cases abort with
    | some abort =>
      refine ⟨some abort, middle, flag, ?_⟩
      intro v
      simp only [absorb, posted v]
    | none =>
      obtain ⟨abort, k, later, absorbed⟩ := ih middle
      refine ⟨abort, k, later ∘ flag, ?_⟩
      intro v
      simp only [absorb, posted v]
      exact absorbed v

theorem impartial_commit {α : Type} (t : Traced α) : Impartial t.commit := by
  intro l
  obtain ⟨abort, k, flag, absorbed⟩ := impartial_absorb t.events.toList l
  cases abort with
  | some abort =>
    refine ⟨.error abort, k, flag, ?_⟩
    intro v
    simp only [Traced.commit, absorbed v]
  | none =>
    refine ⟨.ok t.value, k, flag, ?_⟩
    intro v
    simp only [Traced.commit, absorbed v]

end Journal

end Anem
