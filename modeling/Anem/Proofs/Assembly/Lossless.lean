import Anem.Proofs.Assembly.Passes
import Anem.Proofs.Layout.Faultless

namespace Anem

theorem Image.length_ofLayout {layout : Layout}
    (encoded : ∀ item ∈ layout.code, ∃ bits, item.encode layout.symbols = .ok bits) :
    (ofLayout layout).value.length = (layout.code.map (·.address)).toFinset.card := by
  have same : ((ofLayout layout).value.map (·.address)).toFinset =
      (layout.code.map (·.address)).toFinset := by
    ext address
    rw [List.mem_toFinset, List.mem_toFinset, address_mem_ofLayout encoded]
  rw [← same, List.toFinset_card_of_nodup (nodup_ofLayout layout), List.length_map]

namespace Assembly

/-- The passes of a run without an error, each without an error. -/
theorem no_errors_of_clean {source : Text} {v : Verbosity} {a : Assembly} {k : Journal}
    (ok : assemble source (.new v) = (.ok a, k)) (clean : k.errors = 0) :
    gather Layout.faults a.statements = [] ∧
    (Image.ofLayout a.layout).events.toList.filterMap Event.error? = [] := by
  have grown := grown_of_assemble ok
  obtain ⟨rfl, -⟩ := assemble_eq_ok.mp ok
  have none : (trace source).events.toList.filterMap Event.error? = [] := by
    have counted := grown.errors
    rw [clean] at counted
    apply List.eq_nil_of_length_eq_zero
    omega
  rw [events_trace, List.filterMap_append, List.filterMap_append, List.append_eq_nil_iff,
    List.append_eq_nil_iff, Layout.errors_ofStatements] at none
  exact none.2

theorem warnings_of_ok {source : Text} {v : Verbosity} {a : Assembly} {k : Journal}
    (ok : assemble source (.new v) = (.ok a, k)) :
    k.warnings = (Layout.overlaps a.layout.code).length := by
  have grown := grown_of_assemble ok
  obtain ⟨rfl, -⟩ := assemble_eq_ok.mp ok
  have first : (Statement.ofLines (SourceLine.ofSource source)).events.toList.countP
      Event.isWarning = 0 := by
    rw [List.countP_eq_zero]
    intro e he
    simp [Statement.isWarning_ofLines he]
  have last : (Image.ofLayout (trace source).value.layout).events.toList.countP
      Event.isWarning = 0 := by
    rw [List.countP_eq_zero]
    intro e he
    simp [Image.isWarning_ofLayout he]
  have middle : (Layout.ofStatements (trace source).value.statements).events.toList.countP
      Event.isWarning = (Layout.overlaps (trace source).value.layout.code).length :=
    Layout.warnings_ofStatements _
  rw [grown.warnings, events_trace, List.countP_append, List.countP_append, first, last, middle]
  simp [Journal.new]

/-- **A run without an error loses nothing.** The code is the instructions of
the source in their order, the words stand at exactly the addresses of the
code, and the instructions that share an address with an earlier one are
counted by the warnings. -/
theorem assemble_loses_nothing {source : Text} {v : Verbosity} {a : Assembly} {k : Journal}
    (ok : assemble source (.new v) = (.ok a, k)) (clean : k.errors = 0) :
    a.layout.code.map (fun item => (item.origin, item.text)) =
      ((Statement.ofLines (SourceLine.ofSource source)).value.filter Statement.isInstruction).map
        (fun s => (s.origin, s.text)) ∧
    (∀ address, address ∈ a.image.map (·.address) ↔ address ∈ a.layout.code.map (·.address)) ∧
    a.image.length + k.warnings = a.layout.code.length ∧
    k.warnings = (Layout.overlaps a.layout.code).length := by
  obtain ⟨noFaults, noErrors⟩ := no_errors_of_clean ok clean
  have warnings := warnings_of_ok ok
  have calm := (grown_of_assemble ok).calm
  obtain ⟨rfl, -⟩ := assemble_eq_ok.mp ok
  rw [events_trace] at calm
  have encoded := Image.encode_of_calm noErrors fun e he =>
    calm e (List.mem_append_right _ (List.mem_append_right _ he))
  refine ⟨Layout.code_of_no_faults noFaults, fun _ => Image.address_mem_ofLayout encoded, ?_,
    warnings⟩
  have distinct := Image.length_ofLayout encoded
  rw [warnings, ← Layout.card_add_overlaps (trace source).value.layout.code, ← distinct]
  rfl

/-- A source whose third instruction goes back to the first address. -/
def backward : Text := "HAB\nL: HAB\n.ADDRESS 0\nJ %L%\n".toList

theorem assemble_loses_nothing_backward :
    ∃ a k, assemble backward (.new .off) = (.ok a, k) ∧ k.errors = 0 ∧
      a.image.length + k.warnings = a.layout.code.length ∧ k.warnings = 1 := by
  have calm : ∀ e ∈ (trace backward).events.toList, e.isFatal = false := by
    have all : (trace backward).events.toList.all (fun e => !e.isFatal) = true := by decide +kernel
    intro e he
    simpa only [Bool.not_eq_true'] using List.all_eq_true.mp all e he
  obtain ⟨k, absorbed⟩ := Journal.absorb_of_clear (j := .new .off) rfl calm
  have ok := assemble_eq_ok.mpr ⟨rfl, absorbed⟩
  have clean : k.errors = 0 := by
    rw [(grown_of_assemble ok).errors]
    decide +kernel
  obtain ⟨-, -, counted, warnings⟩ := assemble_loses_nothing ok clean
  refine ⟨_, k, ok, clean, counted, ?_⟩
  rw [warnings]
  decide +kernel

end Assembly

end Anem
