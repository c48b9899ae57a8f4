import Anem.Journal

namespace Anem

namespace Event

/-- An error after which the pass goes on, with its line. -/
def error? : Event → Option (Nat × Fault)
  | error line cause => some (line, cause)
  | _ => none

def isWarning : Event → Bool
  | warning .. => true
  | _ => false

def isFatal : Event → Bool
  | fatal .. => true
  | _ => false

/-- The fault that an event reports, with its line. -/
def fault? : Event → Option (Nat × Fault)
  | error line cause => some (line, cause)
  | fatal line cause => some (line, cause)
  | _ => none

end Event

namespace Journal

/-- The record of an error after which the pass goes on. -/
def complaint (error : Nat × Fault) : Record :=
  ⟨.error, some error.1, error.2.message⟩

/-- The record of an error that ends the run. -/
def lastWords (error : Nat × Fault) : Record :=
  ⟨.error, some error.1, fatalMark ++ error.2.message⟩

def complaints (j : Journal) : List Record :=
  j.records.toList.filter fun r => r.severity = .error

/-- A journal that has taken these events, none of which ended the run. -/
structure Grown (j : Journal) (es : List Event) (k : Journal) : Prop where
  calm : ∀ e ∈ es, e.isFatal = false
  fatal : k.fatal = j.fatal
  errors : k.errors = j.errors + (es.filterMap Event.error?).length
  warnings : k.warnings = j.warnings + es.countP Event.isWarning
  complaints : k.complaints = j.complaints ++ (es.filterMap Event.error?).map complaint

theorem Grown.nil (j : Journal) : Grown j [] j :=
  ⟨by simp, rfl, rfl, rfl, by simp⟩

theorem Grown.append {i j k : Journal} {es fs : List Event} (first : Grown i es j)
    (second : Grown j fs k) : Grown i (es ++ fs) k where
  calm := by
    intro e he
    rcases List.mem_append.mp he with he | he
    · exact first.calm e he
    · exact second.calm e he
  fatal := second.fatal.trans first.fatal
  errors := by
    rw [second.errors, first.errors, List.filterMap_append, List.length_append]
    omega
  warnings := by
    rw [second.warnings, first.warnings, List.countP_append]
    omega
  complaints := by
    rw [second.complaints, first.complaints, List.filterMap_append, List.map_append,
      List.append_assoc]

theorem grown_of_post {j k : Journal} {e : Event} (h : j.post e = (none, k)) :
    Grown j [e] k := by
  cases e with
  | error line cause =>
    rw [post] at h
    split at h
    · simp [abort] at h
    · cases h
      exact ⟨by simp [Event.isFatal], rfl, rfl, rfl,
        by simp [complaints, record, Event.error?, complaint]⟩
  | fatal line cause => simp [post, abort] at h
  | warning line message =>
    cases h
    exact ⟨by simp [Event.isFatal], rfl, rfl, rfl, by simp [complaints, record, Event.error?]⟩
  | info message =>
    cases h
    exact ⟨by simp [Event.isFatal], rfl, rfl, rfl, by simp [complaints, record, Event.error?]⟩
  | debug message =>
    cases h
    exact ⟨by simp [Event.isFatal], rfl, rfl, rfl, by simp [complaints, record, Event.error?]⟩

/-- The counts after events that did not end the run. -/
theorem grown_of_absorb {j k : Journal} {es : List Event} (h : j.absorb es = (none, k)) :
    Grown j es k := by
  induction es generalizing j with
  | nil =>
    cases h
    exact Grown.nil _
  | cons e es ih =>
    rw [absorb] at h
    split at h
    · cases h
    · rename_i middle posted
      exact (grown_of_post posted).append (ih h)

/-- Without a fatal event nothing ends a run that is not fatal yet. -/
theorem absorb_of_clear {j : Journal} (clear : j.fatal = false) {es : List Event}
    (calm : ∀ e ∈ es, e.isFatal = false) : ∃ k, j.absorb es = (none, k) := by
  induction es generalizing j with
  | nil => exact ⟨j, rfl⟩
  | cons e es ih =>
    obtain ⟨k, posted⟩ : ∃ k, j.post e = (none, k) := by
      cases e with
      | error line cause => exact ⟨_, by rw [post, clear]; rfl⟩
      | fatal line cause => exact absurd (calm _ List.mem_cons_self) (by simp [Event.isFatal])
      | warning line message => exact ⟨_, rfl⟩
      | info message => exact ⟨_, rfl⟩
      | debug message => exact ⟨_, rfl⟩
    rw [absorb, posted]
    apply ih
    · exact (grown_of_post posted).fatal.trans clear
    · exact fun f hf => calm f (List.mem_cons_of_mem _ hf)

/-- An event that ends the run ends it whatever follows. -/
theorem absorb_stop {j middle k : Journal} {before : List Event} {e : Event} {abort : Abort}
    (taken : j.absorb before = (none, middle)) (stopped : middle.post e = (some abort, k))
    (after : List Event) : j.absorb (before ++ e :: after) = (some abort, k) := by
  rw [absorb_append, taken]
  simp only [absorb, stopped]

/-- A fatal event ends a run that nothing has ended before. -/
theorem absorb_fatal {j : Journal} (clear : j.fatal = false) {before : List Event}
    (calm : ∀ e ∈ before, e.isFatal = false) (line : Nat) (cause : Fault) (after : List Event) :
    ∃ middle, Grown j before middle ∧
      j.absorb (before ++ .fatal line cause :: after) =
        (some ⟨line, cause⟩, (middle.setFatal.abort line cause).2) := by
  obtain ⟨middle, taken⟩ := absorb_of_clear clear calm
  exact ⟨middle, grown_of_absorb taken, absorb_stop taken rfl after⟩

@[simp] theorem errors_abort (j : Journal) (line : Nat) (cause : Fault) :
    (j.abort line cause).2.errors = j.errors + 1 := rfl

theorem records_abort (j : Journal) (line : Nat) (cause : Fault) :
    (j.abort line cause).2.records.toList = j.records.toList ++ [lastWords (line, cause)] :=
  Array.toList_push

theorem complaints_abort (j : Journal) (line : Nat) (cause : Fault) :
    (j.abort line cause).2.complaints = j.complaints ++ [lastWords (line, cause)] := by
  rw [complaints, records_abort, List.filter_append]
  rfl

end Journal

namespace Traced

/-- What holds at the start and is kept by every step holds of a whole run,
with the members that the run has seen. -/
theorem foldl_induction {σ α : Type} {step : σ → α → Traced σ} {init : σ}
    {motive : List α → Traced σ → Prop} (start : motive [] (silent init))
    (next : ∀ seen t x, motive seen t → motive (seen ++ [x]) (t.andThen fun s => step s x))
    (xs : List α) : motive xs (foldl step init xs) := by
  have run : ∀ (tail seen : List α) (t : Traced σ), motive seen t →
      motive (seen ++ tail) (tail.foldl (fun t x => t.andThen fun s => step s x) t) := by
    intro tail
    induction tail with
    | nil =>
      intro seen t h
      simpa using h
    | cons x tail ih =>
      intro seen t h
      simpa using ih (seen ++ [x]) _ (next seen t x h)
  have whole := run xs [] (silent init) start
  rw [List.nil_append] at whole
  exact whole

theorem flatMap_silent {α β γ : Type} {f : α → Traced (List β)} {line : γ → α}
    {g : γ → List β} {xs : List γ} (h : ∀ x ∈ xs, f (line x) = .silent (g x)) :
    flatMap f (xs.map line) = .silent (xs.flatMap g) := by
  have each : xs.map (f ∘ line) = xs.map fun x => .silent (g x) := List.map_congr_left h
  simp [flatMap, each, silent, List.flatMap_map]

theorem silent_andThen {α β : Type} (a : α) (next : α → Traced β) :
    (silent a).andThen next = next a := by
  simp [andThen, silent]

/-- Only what follows the value at hand matters. -/
theorem andThen_congr {α β : Type} {t : Traced α} {f g : α → Traced β}
    (same : f t.value = g t.value) : t.andThen f = t.andThen g := by
  rw [andThen, andThen, same]

theorem andThen_assoc {α β γ : Type} (t : Traced α) (f : α → Traced β) (g : β → Traced γ) :
    (t.andThen f).andThen g = t.andThen fun a => (f a).andThen g := by
  simp [andThen, Array.append_assoc]

theorem commit_eq_ok {α : Type} {t : Traced α} {j k : Journal} {x : α} :
    t.commit j = (.ok x, k) ↔ t.value = x ∧ j.absorb t.events.toList = (none, k) := by
  unfold commit
  rcases j.absorb t.events.toList with ⟨_ | abort, after⟩
  · constructor
    · intro h
      cases h
      exact ⟨rfl, rfl⟩
    · rintro ⟨rfl, h⟩
      cases h
      rfl
  · constructor
    · intro h
      cases h
    · rintro ⟨-, h⟩
      cases h

/-- A result without a fatal event counts in a journal that is not fatal. -/
theorem commit_of_calm {α : Type} {t : Traced α} {j : Journal} (clear : j.fatal = false)
    (calm : ∀ e ∈ t.events.toList, e.isFatal = false) : ∃ k, t.commit j = (.ok t.value, k) := by
  obtain ⟨k, absorbed⟩ := Journal.absorb_of_clear clear calm
  exact ⟨k, commit_eq_ok.mpr ⟨rfl, absorbed⟩⟩

theorem commit_eq_error {α : Type} {t : Traced α} {j k : Journal} {abort : Abort} :
    t.commit j = (.error abort, k) ↔ j.absorb t.events.toList = (some abort, k) := by
  unfold commit
  rcases j.absorb t.events.toList with ⟨_ | other, after⟩
  · constructor
    · intro h
      cases h
    · intro h
      cases h
  · constructor
    · intro h
      cases h
      rfl
    · intro h
      cases h
      rfl

theorem snd_commit {α : Type} (t : Traced α) (j : Journal) :
    (t.commit j).2 = (j.absorb t.events.toList).2 := by
  unfold commit
  rcases j.absorb t.events.toList with ⟨_ | abort, after⟩
  · rfl
  · rfl

/-- Committing two results in a row is committing what they amount to. -/
theorem commit_andThen {α β : Type} (t : Traced α) (next : α → Traced β) :
    (t.andThen next).commit = (do let a ← t.commit; (next a).commit : Run β) := by
  funext j
  have split := j.absorb_append t.events.toList (next t.value).events.toList
  simp only [commit, events_andThen, value_andThen, Array.toList_append, split, bind, ExceptT.bind,
    ExceptT.bindCont, ExceptT.mk, StateT.bind]
  rcases j.absorb t.events.toList with ⟨_ | abort, after⟩
  · rfl
  · rfl

end Traced

end Anem
