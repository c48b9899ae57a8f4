import Anem.Proofs.Assembly.Passes

/-!
A strict run: the same passes in a journal that is fatal from the start. Up to
the first fault the two journals differ in their flags only. There the strict
run ends, and the ordinary one goes on or ends as well.
-/
namespace Anem

namespace Event

/-- The record of an event in a journal that is not fatal. -/
def entry : Event → Record
  | error line cause => Journal.complaint (line, cause)
  | fatal line cause => Journal.lastWords (line, cause)
  | warning line message => ⟨.warning, line, message⟩
  | info message => ⟨.info, none, message⟩
  | debug message => ⟨.debug, none, message⟩

theorem severity_entry {e : Event} (faultless : e.fault? = none) : e.entry.severity ≠ .error := by
  cases e with
  | error line cause => cases faultless
  | fatal line cause => cases faultless
  | warning line message => exact Severity.noConfusion
  | info message => exact Severity.noConfusion
  | debug message => exact Severity.noConfusion

theorem entry_of_fault {e : Event} {error : Nat × Fault} (fault : e.fault? = some error) :
    e.entry = Journal.complaint error ∨ e.entry = Journal.lastWords error := by
  cases e with
  | error line cause =>
    cases fault
    exact Or.inl rfl
  | fatal line cause =>
    cases fault
    exact Or.inr rfl
  | _ => cases fault

end Event

namespace Journal

theorem records_record (j : Journal) (r : Record) :
    (j.record r).records.toList = j.records.toList ++ [r] :=
  Array.toList_push

theorem records_post {j : Journal} (clear : j.fatal = false) (e : Event) :
    (j.post e).2.records.toList = j.records.toList ++ [e.entry] := by
  cases e with
  | error line cause =>
    rw [post, clear]
    exact records_record _ _
  | fatal line cause => exact records_record _ _
  | warning line message => exact records_record _ _
  | info message => exact records_record _ _
  | debug message => exact records_record _ _

theorem records_absorb {j : Journal} (clear : j.fatal = false) (es : List Event) :
    j.records.toList <+: (j.absorb es).2.records.toList := by
  induction es generalizing j with
  | nil => exact List.prefix_refl _
  | cons e es ih =>
    have own := records_post clear e
    rw [absorb]
    rcases posted : j.post e with ⟨_ | abort, k⟩
    · rw [posted] at own
      have grown : j.records.toList <+: k.records.toList := ⟨[e.entry], own.symm⟩
      exact grown.trans (ih ((grown_of_post posted).fatal.trans clear))
    · rw [posted] at own
      exact ⟨[e.entry], own.symm⟩

/-- Without a fault it makes no difference whether the journal is strict. -/
theorem post_setFatal {e : Event} (faultless : e.fault? = none) (j : Journal) :
    ∃ k, j.post e = (none, k) ∧ j.setFatal.post e = (none, k.setFatal) ∧ k.errors = j.errors ∧
      k.records.toList = j.records.toList ++ [e.entry] := by
  cases e with
  | error line cause => cases faultless
  | fatal line cause => cases faultless
  | warning line message => exact ⟨_, rfl, rfl, rfl, records_record _ _⟩
  | info message => exact ⟨_, rfl, rfl, rfl, records_record _ _⟩
  | debug message => exact ⟨_, rfl, rfl, rfl, records_record _ _⟩

/-- Both journals go the same way until the first fault. -/
theorem absorb_setFatal {es : List Event} (faultless : ∀ e ∈ es, e.fault? = none) (j : Journal) :
    ∃ k, j.absorb es = (none, k) ∧ j.setFatal.absorb es = (none, k.setFatal) ∧
      k.errors = j.errors ∧ k.records.toList = j.records.toList ++ es.map Event.entry := by
  induction es generalizing j with
  | nil => exact ⟨j, rfl, rfl, rfl, (List.append_nil _).symm⟩
  | cons e es ih =>
    obtain ⟨middle, posted, strict, errors, records⟩ :=
      post_setFatal (faultless e List.mem_cons_self) j
    obtain ⟨k, ordinary, strictly, more, rest⟩ :=
      ih (fun d hd => faultless d (List.mem_cons_of_mem e hd)) middle
    refine ⟨k, ?_, ?_, more.trans errors, ?_⟩
    · rw [absorb, posted]
      exact ordinary
    · rw [absorb, strict]
      exact strictly
    · rw [rest, records, List.append_assoc]
      rfl

/-- A strict journal ends the run at every fault. -/
theorem post_of_fault {e : Event} {error : Nat × Fault} (fault : e.fault? = some error)
    (j : Journal) :
    j.setFatal.post e = (some ⟨error.1, error.2⟩, (j.setFatal.abort error.1 error.2).2) := by
  cases e with
  | error line cause =>
    cases fault
    rfl
  | fatal line cause =>
    cases fault
    rfl
  | _ => cases fault

theorem records_absorb_append {j middle : Journal} (clear : j.fatal = false) {before : List Event}
    (taken : j.absorb before = (none, middle)) (e : Event) (after : List Event) :
    middle.records.toList ++ [e.entry] <+:
      (j.absorb (before ++ e :: after)).2.records.toList := by
  have still : middle.fatal = false := (grown_of_absorb taken).fatal.trans clear
  have own := records_post still e
  rw [absorb_append, taken]
  simp only [absorb]
  rcases posted : middle.post e with ⟨_ | abort, k⟩
  · rw [posted] at own
    rw [← own]
    exact records_absorb ((grown_of_post posted).fatal.trans still) after
  · rw [posted] at own
    exact ⟨[], (List.append_nil _).trans own.symm⟩

theorem complaints_of_faultless {es : List Event} (faultless : ∀ e ∈ es, e.fault? = none)
    {j k : Journal} (records : k.records.toList = j.records.toList ++ es.map Event.entry) :
    k.complaints = j.complaints := by
  have added : (es.map Event.entry).filter (fun r => r.severity = .error) = [] := by
    rw [List.filter_eq_nil_iff]
    intro r hr
    obtain ⟨e, he, rfl⟩ := List.mem_map.mp hr
    simpa using Event.severity_entry (faultless e he)
  rw [complaints, records, List.filter_append, added, List.append_nil]
  rfl

theorem complaints_ne_nil {k : Journal} {r : Record} (recorded : r ∈ k.records.toList)
    (error : r.severity = .error) : k.complaints ≠ [] := by
  have complaint : r ∈ k.complaints := List.mem_filter.mpr ⟨recorded, decide_eq_true error⟩
  exact List.ne_nil_of_mem complaint

/-- At the first fault the strict run ends, with the records before it. -/
theorem absorb_cut {es : List Event} {error : Nat × Fault}
    (found : es.findSome? Event.fault? = some error) (v : Verbosity) :
    ∃ before first after k,
      ((Journal.new v).absorb es).2.records.toList = before ++ first :: after ∧
      (∀ r ∈ before, r.severity ≠ .error) ∧
      (first = complaint error ∨ first = lastWords error) ∧
      (Journal.new v).setFatal.absorb es = (some ⟨error.1, error.2⟩, k) ∧
      k.records.toList = before ++ [lastWords error] ∧ k.errors = 1 := by
  -- The two journals meet the first fault in the same state, and part there.
  obtain ⟨before, e, after, rfl, fault, faultless⟩ := List.findSome?_eq_some_iff.mp found
  obtain ⟨middle, taken, strictly, errors, records⟩ := absorb_setFatal faultless (.new v)
  have front : middle.records.toList = before.map Event.entry := records.trans (List.nil_append _)
  obtain ⟨rest, recorded⟩ := records_absorb_append rfl taken e after
  rw [front, List.append_assoc] at recorded
  refine ⟨before.map Event.entry, e.entry, rest, (middle.setFatal.abort error.1 error.2).2,
    recorded.symm, ?_, Event.entry_of_fault fault,
    absorb_stop strictly (post_of_fault fault middle) after, ?_, ?_⟩
  · intro r hr
    obtain ⟨d, hd, rfl⟩ := List.mem_map.mp hr
    exact Event.severity_entry (faultless d hd)
  · rw [records_abort, ← front]
    rfl
  · rw [errors_abort]
    exact congrArg (· + 1) errors

end Journal

namespace Assembly

/-- **A strict run is the ordinary run cut at its first error.** Where the
ordinary run records no error, both give the same result and the same journal,
but for the flag. Otherwise the strict run is aborted by the first fault that
the ordinary one records: its records are those before, and that fault with the
mark. -/
theorem strict_run_cut (source : Text) (v : Verbosity) :
    let ordinary := assemble source (.new v)
    let strict := assemble source (Journal.new v).setFatal
    (ordinary.2.complaints = [] →
      ∃ a, ordinary.1 = .ok a ∧ strict = (.ok a, ordinary.2.setFatal)) ∧
    (ordinary.2.complaints ≠ [] → ∃ before first after line cause,
      ordinary.2.records.toList = before ++ first :: after ∧
      (∀ r ∈ before, r.severity ≠ .error) ∧
      (first = ⟨.error, some line, cause.message⟩ ∨
        first = ⟨.error, some line, "(FATAL) ".toList ++ cause.message⟩) ∧
      (trace source).events.toList.findSome? Event.fault? = some (line, cause) ∧
      strict.1 = .error ⟨line, cause⟩ ∧
      strict.2.records.toList =
        before ++ [⟨.error, some line, "(FATAL) ".toList ++ cause.message⟩] ∧
      strict.2.errors = 1) := by
  cases found : (trace source).events.toList.findSome? Event.fault? with
  | none =>
    have faultless := List.findSome?_eq_none_iff.mp found
    obtain ⟨k, absorbed, strictly, -, records⟩ := Journal.absorb_setFatal faultless (.new v)
    have ok := assemble_eq_ok.mpr ⟨rfl, absorbed⟩
    have okToo := assemble_eq_ok.mpr ⟨rfl, strictly⟩
    have clean : k.complaints = [] := Journal.complaints_of_faultless faultless records
    simp only [ok, okToo]
    refine ⟨fun _ => ⟨_, rfl, rfl⟩, ?_⟩
    intro complaints
    exact absurd clean complaints
  | some error =>
    obtain ⟨before, first, after, k, recorded, earlier, reported, stopped, records, errors⟩ :=
      Journal.absorb_cut found v
    have aborted := assemble_eq_error.mpr stopped
    rw [← snd_assemble] at recorded
    have complaints : (assemble source (.new v)).2.complaints ≠ [] := by
      apply Journal.complaints_ne_nil (r := first)
      · rw [recorded]
        exact List.mem_append_right _ List.mem_cons_self
      · rcases reported with rfl | rfl
        · rfl
        · rfl
    simp only [aborted]
    constructor
    · intro clean
      exact absurd clean complaints
    · intro _
      exact ⟨before, first, after, error.1, error.2, recorded, earlier, reported, rfl, rfl, records,
        errors⟩

/-- A note and a warning before the first of two errors. -/
def sloppy : Text := "A: HAB\n.ADDRESS 0\nHAB\nFOO\n.BAR\n".toList

theorem strict_run_cut_sloppy :
    (assemble sloppy (.new .off)).2.complaints ≠ [] ∧
    (assemble sloppy (Journal.new .off).setFatal).1 =
      .error ⟨5, .invalidDirective ".BAR".toList⟩ ∧
    (assemble sloppy (Journal.new .off).setFatal).2.errors = 1 := by
  have complaints : (assemble sloppy (.new .off)).2.complaints ≠ [] := by
    rw [snd_assemble]
    decide +kernel
  have fault : (trace sloppy).events.toList.findSome? Event.fault? =
      some (5, .invalidDirective ".BAR".toList) := by decide +kernel
  obtain ⟨-, cut⟩ := strict_run_cut sloppy .off
  obtain ⟨before, first, after, line, cause, -, -, -, found, aborted, -, errors⟩ := cut complaints
  rw [fault] at found
  cases found
  exact ⟨complaints, aborted, errors⟩

end Assembly

end Anem
