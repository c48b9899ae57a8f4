import Anem.Assembly
import Anem.Proofs.Image
import Anem.Proofs.Layout.ClosedForm
import Anem.Proofs.Statement.Lines

namespace Anem

theorem Image.isWarning_ofLayout {layout : Layout} {e : Event}
    (h : e ∈ (Image.ofLayout layout).events.toList) : e.isWarning = false := by
  rw [Image.events_ofLayout] at h
  obtain ⟨item, -, rfl⟩ := List.mem_map.mp h
  cases item.encode layout.symbols with
  | ok bits => rfl
  | error cause =>
    rw [Item.event]
    split
    · rfl
    · rfl

namespace Assembly

/-- All passes, one after the other, before a journal has seen them. -/
def trace (source : Text) : Traced Assembly :=
  (Statement.ofLines (SourceLine.ofSource source)).andThen fun statements =>
    (Layout.ofStatements statements).andThen fun layout =>
      (Image.ofLayout layout).andThen fun image => .silent ⟨statements, layout, image⟩

theorem assemble_eq_commit (source : Text) : assemble source = (trace source).commit := by
  rw [trace, Traced.commit_andThen, assemble]
  congr
  funext statements
  rw [Traced.commit_andThen]
  congr
  funext layout
  rw [Traced.commit_andThen]
  rfl

theorem assemble_eq_ok {source : Text} {j k : Journal} {a : Assembly} :
    assemble source j = (.ok a, k) ↔
      (trace source).value = a ∧ j.absorb (trace source).events.toList = (none, k) := by
  rw [assemble_eq_commit, Traced.commit_eq_ok]

theorem assemble_of_calm {source : Text} {j : Journal} (clear : j.fatal = false)
    (calm : ∀ e ∈ (trace source).events.toList, e.isFatal = false) :
    ∃ k, assemble source j = (.ok (trace source).value, k) := by
  rw [assemble_eq_commit]
  exact Traced.commit_of_calm clear calm

theorem assemble_eq_error {source : Text} {j k : Journal} {abort : Abort} :
    assemble source j = (.error abort, k) ↔
      j.absorb (trace source).events.toList = (some abort, k) := by
  rw [assemble_eq_commit, Traced.commit_eq_error]

theorem snd_assemble (source : Text) (j : Journal) :
    (assemble source j).2 = (j.absorb (trace source).events.toList).2 := by
  rw [assemble_eq_commit, Traced.snd_commit]

/-- The journal of a run that was not aborted. -/
theorem grown_of_assemble {source : Text} {j k : Journal} {a : Assembly}
    (ok : assemble source j = (.ok a, k)) : j.Grown (trace source).events.toList k :=
  Journal.grown_of_absorb (assemble_eq_ok.mp ok).2

theorem events_trace (source : Text) :
    let a := (trace source).value
    (trace source).events.toList =
      (Statement.ofLines (SourceLine.ofSource source)).events.toList ++
      ((Layout.ofStatements a.statements).events.toList ++
        (Image.ofLayout a.layout).events.toList) := by
  simp [trace, Traced.silent]

section Complaints

variable {source : Text} {j k : Journal} {a : Assembly} (ok : assemble source j = (.ok a, k))

include ok

theorem complaint_of_error {error : Nat × Fault}
    (found : error ∈ (trace source).events.toList.filterMap Event.error?) :
    Journal.complaint error ∈ k.complaints := by
  rw [(grown_of_assemble ok).complaints]
  exact List.mem_append_right _ (List.mem_map_of_mem found)

/-- The fault of a line is reported. -/
theorem complaint_of_line {line : SourceLine} {error : Nat × Fault}
    (given : line ∈ SourceLine.ofSource source) (fault : line.fault? = some error) :
    Journal.complaint error ∈ k.complaints := by
  apply complaint_of_error ok
  rw [events_trace, List.filterMap_append, Statement.errors_ofLines]
  exact List.mem_append_left _ (List.mem_filterMap.mpr ⟨line, given, fault⟩)

/-- The faults of the statements are reported. -/
theorem complaint_of_statement {error : Nat × Fault}
    (found : error ∈ gather Layout.faults (trace source).value.statements) :
    Journal.complaint error ∈ k.complaints := by
  apply complaint_of_error ok
  rw [events_trace, List.filterMap_append, List.filterMap_append, Layout.errors_ofStatements]
  exact List.mem_append_right _ (List.mem_append_left _ found)

end Complaints

end Assembly

end Anem
