import Anem.Proofs.Assembly.Passes
import Anem.Proofs.Lists

/-!
When a run is aborted. `Halts` says it by the source alone: at the first line
whose instruction is missing, or else at the first item of the code with a
grave fault, and after which faults. A run in a new journal is aborted exactly
there, and its journal holds these faults before the one that ended it.
-/
namespace Anem

namespace Fault

/-- A jump that misses its label, or an instruction that the machine lacks. -/
inductive Grave : Fault → Prop where
  | displacement (address : Address) (mnemonic : Text) (offset : Int) :
    Grave (.displacement address mnemonic offset)
  | unimplemented (what : Text) : Grave (.unimplemented what)

theorem grave_iff {cause : Fault} : cause.Grave ↔ cause.isFatal = true := by
  constructor
  · intro grave
    cases grave with
    | displacement => rfl
    | unimplemented => rfl
  · intro fatal
    cases cause with
    | displacement address mnemonic offset => exact .displacement address mnemonic offset
    | unimplemented what => exact .unimplemented what
    | _ => cases fatal

/-- The message of any other fault does not pass for that of a fatal one. -/
theorem unmarked_message {cause : Fault} (plain : cause.isFatal = false) :
    ¬ "(FATAL)".toList <+: cause.message := by
  rintro ⟨rest, same⟩
  -- No such message starts with a parenthesis.
  have first := congrArg List.head? same
  cases cause with
  | displacement | unimplemented => cases plain
  | _ => cases first

end Fault

theorem Item.isFatal_event_iff {item : Item} {outcome : Except Fault Word} :
    (item.event outcome).isFatal = true ↔ ∃ cause, outcome = .error cause ∧ cause.Grave := by
  cases outcome with
  | ok bits => simp [event, Event.isFatal]
  | error cause => simp [isFatal_event, Fault.grave_iff]

theorem Item.calm_event_iff {item : Item} {outcome : Except Fault Word} :
    (item.event outcome).isFatal = false ↔ ∀ cause, outcome = .error cause → ¬ cause.Grave := by
  rw [← Bool.not_eq_true, isFatal_event_iff]
  simp only [not_exists, not_and]

theorem Statement.isFatal_of_reject {s : Statement} {cause : Fault}
    (h : s.role = .reject cause) : cause.isFatal = false := by
  unfold role at h
  repeat' split at h
  all_goals cases h
  all_goals rfl

/-- No fault of the layout ends a run. -/
theorem Layout.isFatal_of_mem_faults {statements : List Statement} {n : Nat} {cause : Fault}
    (h : (n, cause) ∈ gather faults statements) : cause.isFatal = false := by
  obtain ⟨before, s, -, -, found⟩ := mem_gather.mp h
  obtain ⟨other, raised, same⟩ := List.mem_map.mp found
  cases same
  rcases List.mem_append.mp raised with clashing | refused
  · obtain ⟨own, definition, -, -, hd⟩ := mem_gather.mp clashing
    rw [clash] at hd
    split at hd
    · rw [List.mem_singleton.mp hd]
      rfl
    · cases hd
  · unfold refusal at refused
    split at refused
    · split at refused
      · cases refused
      · rw [List.mem_singleton.mp refused]
        rfl
    · rename_i rejected
      rw [List.mem_singleton.mp refused]
      exact Statement.isFatal_of_reject rejected
    · cases refused

namespace Assembly

/-- The fault that ends a run, with its line, and the faults before it. -/
inductive Halts (source : Text) : Abort → List (Nat × Fault) → Prop where
  /-- At the first line whose instruction is missing, after the faults of the
  lines before. -/
  | line {before after : List SourceLine} {line : SourceLine}
    (split : SourceLine.ofSource source = before ++ line :: after)
    (first : ∀ other ∈ before, other.isMissing = false)
    (missing : line.isMissing = true) :
    Halts source ⟨line.number, .unimplemented "MADD".toList⟩ (before.filterMap SourceLine.fault?)
  /-- At the first item with a grave fault, after the faults of all lines, of the
  layout and of the items before. -/
  | item {before after : List Item} {item : Item} {cause : Fault}
    (known : ∀ line ∈ SourceLine.ofSource source, line.isMissing = false)
    (split : (trace source).value.layout.code = before ++ item :: after)
    (first : ∀ other ∈ before, ∀ lesser,
      other.encode (trace source).value.layout.symbols = .error lesser → ¬ lesser.Grave)
    (outcome : item.encode (trace source).value.layout.symbols = .error cause)
    (grave : cause.Grave) :
    Halts source ⟨item.origin, cause⟩
      ((SourceLine.ofSource source).filterMap SourceLine.fault? ++
        (gather Layout.faults (trace source).value.statements ++
          before.filterMap (Item.fault? (trace source).value.layout.symbols)))

theorem Halts.events {source : Text} {abort : Abort} {earlier : List (Nat × Fault)}
    (halts : Halts source abort earlier) :
    ∃ before after, (trace source).events.toList =
        before ++ .fatal abort.line abort.cause :: after ∧
      (∀ e ∈ before, e.isFatal = false) ∧ before.filterMap Event.error? = earlier := by
  cases halts with
  | @line before after line split first missing =>
    have own := (Statement.reading_ofLine line).eq_of_missing missing
    have events : (trace source).events.toList = _ := events_trace source
    rw [split, Statement.events_ofLines, List.flatMap_append, List.flatMap_cons, own,
      ← Statement.events_ofLines, List.append_assoc] at events
    exact ⟨_, _, events, Statement.calm_ofLines first, Statement.errors_ofLines before⟩
  | @item before after item cause known split first outcome grave =>
    have calm : ∀ other ∈ before,
        (other.event (other.encode (trace source).value.layout.symbols)).isFatal = false := by
      intro other placed
      exact Item.calm_event_iff.mpr (first other placed)
    have ending : item.event (.error cause) = .fatal item.origin cause := by
      rw [Item.event, if_pos (Fault.grave_iff.mp grave)]
    -- The item comes after both passes before it and the items before it.
    have events : (trace source).events.toList = _ := events_trace source
    rw [Image.events_ofLayout, split, List.map_append, List.map_cons, outcome, ending,
      ← List.append_assoc, ← List.append_assoc, List.append_assoc _ _ (before.map _)] at events
    refine ⟨_, _, events, ?_, ?_⟩
    · intro e he
      rcases List.mem_append.mp he with he | he
      · exact Statement.calm_ofLines known e he
      · rcases List.mem_append.mp he with he | he
        · exact Layout.calm_ofStatements _ e he
        · obtain ⟨other, placed, rfl⟩ := List.mem_map.mp he
          exact calm other placed
    · rw [List.filterMap_append, List.filterMap_append, Statement.errors_ofLines,
        Layout.errors_ofStatements, Item.errors_event calm]

/-- None of the faults before could have ended the run. -/
theorem Halts.plain {source : Text} {abort : Abort} {earlier : List (Nat × Fault)}
    (halts : Halts source abort earlier) : ∀ error ∈ earlier, error.2.isFatal = false := by
  have lines : ∀ lines : List SourceLine, ∀ error ∈ lines.filterMap SourceLine.fault?,
      error.2.isFatal = false := by
    intro lines error reported
    obtain ⟨line, -, fault⟩ := List.mem_filterMap.mp reported
    exact SourceLine.isFatal_of_fault? fault
  intro error reported
  cases halts with
  | @line before => exact lines before error reported
  | @item before after item cause known split first =>
    rcases List.mem_append.mp reported with reported | reported
    · exact lines _ error reported
    · rcases List.mem_append.mp reported with reported | reported
      · exact Layout.isFatal_of_mem_faults reported
      · obtain ⟨other, placed, fault⟩ := List.mem_filterMap.mp reported
        rw [Item.fault?] at fault
        split at fault
        · cases fault
        · rename_i lesser failed
          cases fault
          have light := first other placed lesser failed
          rw [Fault.grave_iff, Bool.not_eq_true] at light
          exact light

/-- A line has a missing instruction, or no line has and an item of the code has
a grave fault. -/
def Doomed (source : Text) : Prop :=
  (∃ line ∈ SourceLine.ofSource source, line.isMissing = true) ∨
  (∀ line ∈ SourceLine.ofSource source, line.isMissing = false) ∧
    ∃ item ∈ (trace source).value.layout.code, ∃ cause,
      item.encode (trace source).value.layout.symbols = .error cause ∧ cause.Grave

theorem doomed_iff_halts {source : Text} :
    Doomed source ↔ ∃ abort earlier, Halts source abort earlier := by
  constructor
  · rintro (missing | ⟨known, item, placed, cause, outcome, grave⟩)
    · obtain ⟨before, line, after, split, first, missing⟩ := exists_first missing
      exact ⟨_, _, .line split first missing⟩
    · obtain ⟨before, item, after, split, first, fatal⟩ := exists_first
        (p := fun item => (item.event (item.encode (trace source).value.layout.symbols)).isFatal)
        ⟨item, placed, Item.isFatal_event_iff.mpr ⟨cause, outcome, grave⟩⟩
      obtain ⟨cause, outcome, grave⟩ := Item.isFatal_event_iff.mp fatal
      refine ⟨_, _, .item known split ?_ outcome grave⟩
      intro other placed
      exact Item.calm_event_iff.mp (first other placed)
  · rintro ⟨abort, earlier, halts⟩
    cases halts with
    | line split first missing =>
      refine Or.inl ⟨_, ?_, missing⟩
      rw [split]
      exact List.mem_append_right _ List.mem_cons_self
    | item known split first outcome grave =>
      refine Or.inr ⟨known, _, ?_, _, outcome, grave⟩
      rw [split]
      exact List.mem_append_right _ List.mem_cons_self

theorem calm_of_not_doomed {source : Text} (safe : ¬ Doomed source) :
    ∀ e ∈ (trace source).events.toList, e.isFatal = false := by
  obtain ⟨noLine, noItem⟩ := not_or.mp safe
  have known : ∀ line ∈ SourceLine.ofSource source, line.isMissing = false := by
    intro line given
    rw [Bool.eq_false_iff]
    exact fun missing => noLine ⟨line, given, missing⟩
  intro e he
  rw [events_trace, List.mem_append, List.mem_append] at he
  rcases he with he | he | he
  · exact Statement.calm_ofLines known e he
  · exact Layout.calm_ofStatements _ e he
  · rw [Image.events_ofLayout] at he
    obtain ⟨item, placed, rfl⟩ := List.mem_map.mp he
    rw [Item.calm_event_iff]
    intro cause outcome grave
    exact noItem ⟨known, item, placed, cause, outcome, grave⟩

theorem Halts.assemble {source : Text} {abort : Abort} {earlier : List (Nat × Fault)}
    (halts : Halts source abort earlier) (v : Verbosity) :
    ∃ middle : Journal, middle.complaints = earlier.map Journal.complaint ∧
      middle.errors = earlier.length ∧
      Assembly.assemble source (.new v) =
        (.error abort, (middle.setFatal.abort abort.line abort.cause).2) := by
  obtain ⟨before, after, events, calm, errors⟩ := halts.events
  obtain ⟨middle, grown, absorbed⟩ := Journal.absorb_fatal (j := .new v) rfl calm abort.line
    abort.cause after
  refine ⟨middle, ?_, ?_, ?_⟩
  · rw [grown.complaints, errors]
    rfl
  · rw [grown.errors, errors]
    exact Nat.zero_add _
  · rw [assemble_eq_error, events]
    exact absorbed

/-- **The abort policy.** A run in a new journal is aborted exactly if its source
is doomed, and only then the journal is fatal. The abort is that of the first
line or item to blame. Its record is the last one and is marked; the errors
before it are those of the earlier lines, passes and items, none of them
marked. -/
theorem abort_policy (source : Text) (v : Verbosity) :
    let run := assemble source (.new v)
    ((∃ abort, run.1 = .error abort) ↔ Doomed source) ∧
    (run.2.fatal = true ↔ ∃ abort, run.1 = .error abort) ∧
    ∀ abort, run.1 = .error abort → ∃ earlier, Halts source abort earlier ∧
      let last : Record :=
        ⟨.error, some abort.line, "(FATAL) ".toList ++ abort.cause.message⟩
      run.2.records.toList.getLast? = some last ∧
      run.2.complaints = earlier.map Journal.complaint ++ [last] ∧
      run.2.errors = earlier.length + 1 ∧
      ∀ r ∈ earlier.map Journal.complaint, ¬ "(FATAL)".toList <+: r.message := by
  by_cases doomed : Doomed source
  · obtain ⟨abort, earlier, halts⟩ := doomed_iff_halts.mp doomed
    obtain ⟨middle, complaints, errors, done⟩ := halts.assemble v
    simp only [done]
    refine ⟨⟨fun _ => doomed, fun _ => ⟨abort, rfl⟩⟩, ⟨fun _ => ⟨abort, rfl⟩, fun _ => rfl⟩, ?_⟩
    rintro _ ⟨rfl⟩
    refine ⟨earlier, halts, ?_, ?_, ?_, ?_⟩
    · rw [Journal.records_abort, List.getLast?_concat]
      rfl
    · rw [Journal.complaints_abort]
      exact congrArg (· ++ _) complaints
    · rw [Journal.errors_abort]
      exact congrArg (· + 1) errors
    · intro r hr
      obtain ⟨error, reported, rfl⟩ := List.mem_map.mp hr
      exact Fault.unmarked_message (halts.plain error reported)
  · obtain ⟨k, ok⟩ := assemble_of_calm (j := .new v) rfl (calm_of_not_doomed doomed)
    have clear : k.fatal = false := (grown_of_assemble ok).fatal
    have through : ¬ ∃ abort : Abort, (.ok (trace source).value : Except Abort Assembly) =
        .error abort := by
      rintro ⟨abort, ⟨⟩⟩
    simp only [ok]
    refine ⟨iff_of_false through doomed, iff_of_false ?_ through, ?_⟩
    · rw [clear]
      exact Bool.false_ne_true
    · rintro abort ⟨⟩

/-- Two faults, a jump that misses its label, and a fault that is not reached. -/
def astray : Text := ".BOGUS\nFOO\nJ %FAR%\nBAR\n.ADDRESS 3000\nFAR: HAB".toList

theorem abort_policy_astray :
    ∃ k, assemble astray (.new .off) = (.error ⟨3, .displacement 1 "J".toList 2999⟩, k) ∧
      Doomed astray ∧ k.fatal = true ∧
      ∃ earlier, Halts astray ⟨3, .displacement 1 "J".toList 2999⟩ earlier ∧ earlier.length = 2 := by
  have stopped : ((Journal.new .off).absorb (trace astray).events.toList).1 =
      some ⟨3, .displacement 1 "J".toList 2999⟩ := by decide +kernel
  have counted : ((Journal.new .off).absorb (trace astray).events.toList).2.errors = 3 := by
    decide +kernel
  rcases absorbed : (Journal.new .off).absorb (trace astray).events.toList with ⟨stop, k⟩
  rw [absorbed] at stopped counted
  obtain rfl : stop = _ := stopped
  have done := assemble_eq_error.mpr absorbed
  obtain ⟨aborted, fatal, last⟩ := abort_policy astray .off
  simp only [done] at aborted fatal last
  obtain ⟨earlier, halts, -, -, errors, -⟩ := last _ rfl
  have two : earlier.length = 2 := Nat.succ.inj (errors.symm.trans counted)
  exact ⟨k, done, aborted.mp ⟨_, rfl⟩, fatal.mpr ⟨_, rfl⟩, earlier, halts, two⟩

end Assembly

end Anem
