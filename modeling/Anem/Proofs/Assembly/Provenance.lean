import Anem.Proofs.Assembly.Passes
import Anem.Proofs.Instruction.Spelling

namespace Anem

namespace SourceLine

/-- A source line is the line of the text with its number, counted from one. -/
theorem of_mem_ofSource {source : Text} {line : SourceLine} (given : line ∈ ofSource source) :
    0 < line.number ∧ (Text.lines source)[line.number - 1]? = some line.text := by
  obtain ⟨⟨text, i⟩, found, rfl⟩ := List.mem_map.mp given
  exact ⟨Nat.succ_pos i, List.mem_zipIdx_iff_getElem?.mp found⟩

theorem ascending_ofSource (source : Text) :
    (ofSource source).Pairwise fun a b => a.number < b.number := by
  have indices : ((Text.lines source).zipIdx.map Prod.snd).Pairwise (· < ·) := by
    rw [List.zipIdx_map_snd]
    exact List.pairwise_lt_range'
  rw [List.pairwise_map] at indices
  rw [ofSource, List.pairwise_map]
  exact indices.imp Nat.succ_lt_succ

end SourceLine

namespace Statement

theorem of_mem_ofLines {lines : List SourceLine} {s : Statement} (h : s ∈ (ofLines lines).value) :
    ∃ line ∈ lines, s ∈ (ofLine line).value ∧ s.origin = line.number := by
  rw [value_ofLines] at h
  obtain ⟨line, given, own⟩ := List.mem_flatMap.mp h
  exact ⟨line, given, own, (reading_ofLine line).origin s own⟩

/-- Lines in ascending order give statements in ascending order. -/
theorem ascending_ofLines {lines : List SourceLine}
    (ascending : lines.Pairwise fun a b => a.number < b.number) :
    (ofLines lines).value.Pairwise fun s t => s.origin ≤ t.origin := by
  rw [value_ofLines, List.pairwise_flatMap]
  constructor
  · intro line _
    apply List.pairwise_of_forall_mem_list
    intro s hs t ht
    have same : s.origin = t.origin :=
      ((reading_ofLine line).origin s hs).trans ((reading_ofLine line).origin t ht).symm
    exact Nat.le_of_eq same
  · apply ascending.imp
    intro a b less s hs t ht
    rw [(reading_ofLine a).origin s hs, (reading_ofLine b).origin t ht]
    exact Nat.le_of_lt less

end Statement

namespace Layout

theorem sublist_code (statements : List Statement) :
    ((ofStatements statements).value.code.map fun item => (item.origin, item.text)).Sublist
      (statements.map fun s => (s.origin, s.text)) := by
  -- Without its address an item is its statement, and each statement has at most one item.
  have spots := congrArg (List.map Prod.snd) (code_ofStatements statements)
  rw [List.map_map, map_gather] at spots
  change (ofStatements statements).value.code.map (fun item => (item.origin, item.text)) = _ at spots
  rw [spots]
  apply gather_sublist
  intro before s
  rw [placement, landing]
  split
  · exact List.Sublist.refl _
  · exact List.nil_sublist _

end Layout

namespace Assembly

/-- An item of the code is a statement of the line whose number it has. -/
theorem line_of_item {source : Text} {item : Item}
    (placed : item ∈ (trace source).value.layout.code) :
    ∃ line ∈ SourceLine.ofSource source, item.origin = line.number ∧
      ∃ s ∈ (Statement.ofLine line).value, s.text = item.text := by
  have kept := (Layout.sublist_code (trace source).value.statements).subset
    (List.mem_map.mpr ⟨item, placed, rfl⟩)
  obtain ⟨s, given, same⟩ := List.mem_map.mp kept
  obtain ⟨origin, text⟩ := Prod.mk.inj same
  obtain ⟨line, read, own, number⟩ := Statement.of_mem_ofLines given
  exact ⟨line, read, origin.symm.trans number, s, own, text⟩

theorem commit_line {source : Text} {j k : Journal} {a : Assembly}
    (ok : assemble source j = (.ok a, k)) {line : SourceLine}
    (given : line ∈ SourceLine.ofSource source) (v : Verbosity) :
    ∃ l, (Statement.ofLines [line]).commit (.new v) = (.ok (Statement.ofLine line).value, l) := by
  have calm : ∀ e ∈ (Statement.ofLines [line]).events.toList, e.isFatal = false := by
    intro e he
    apply (grown_of_assemble ok).calm
    rw [Statement.events_ofLines, List.flatMap_singleton] at he
    rw [events_trace, Statement.events_ofLines]
    exact List.mem_append_left _ (List.mem_flatMap.mpr ⟨line, given, he⟩)
  obtain ⟨l, committed⟩ := Traced.commit_of_calm (j := .new v) rfl calm
  rw [Statement.value_ofLines, List.flatMap_singleton] at committed
  exact ⟨l, committed⟩

/-- **Every word is justified by its own line.** In a run that goes through, a
word has the number of a line of the source. That line by itself gives a
statement whose text has the word at its address, and with this text it is in
the code. Statements and code are in the order of the source. -/
theorem words_justified {source : Text} {j k : Journal} {a : Assembly}
    (ok : assemble source j = (.ok a, k)) :
    (∀ w ∈ a.image, ∃ text, 0 < w.origin ∧ (Text.lines source)[w.origin - 1]? = some text ∧
      ∀ v, ∃ statements l,
        (Statement.ofLines [⟨w.origin, text⟩]).commit (.new v) = (.ok statements, l) ∧
        ∃ s ∈ statements, ∃ ins, Instruction.parse s.text = .ok ins ∧
          ins.encode w.address a.layout.symbols = .ok w.bits ∧
          ⟨w.address, w.origin, s.text⟩ ∈ a.layout.code) ∧
    (a.statements.map (·.origin)).Pairwise (· ≤ ·) ∧
    (a.layout.code.map (·.origin)).Pairwise (· ≤ ·) := by
  obtain ⟨rfl, -⟩ := assemble_eq_ok.mp ok
  have ascending : ((trace source).value.statements.map (·.origin)).Pairwise (· ≤ ·) := by
    rw [List.pairwise_map]
    exact Statement.ascending_ofLines (SourceLine.ascending_ofSource source)
  refine ⟨?_, ascending, ?_⟩
  · intro w hw
    obtain ⟨item, placed, address, origin, outcome⟩ := Image.encode_of_mem_ofLayout hw
    obtain ⟨ins, read, word⟩ := Fault.bind_eq_ok.mp outcome
    obtain ⟨line, given, number, s, own, text⟩ := line_of_item placed
    obtain ⟨positive, found⟩ := SourceLine.of_mem_ofSource given
    have here : line.number = w.origin := number.symm.trans origin
    rw [here] at positive found
    refine ⟨line.text, positive, found, ?_⟩
    intro v
    obtain ⟨l, committed⟩ := commit_line ok given v
    rw [← here]
    refine ⟨_, l, committed, s, own, ins, ?_, ?_, ?_⟩
    · rw [text]
      exact read
    · rw [← address]
      exact word
    · rw [text, ← number, ← address]
      exact placed
  · have kept := (Layout.sublist_code (trace source).value.statements).map Prod.fst
    rw [List.map_map, List.map_map] at kept
    exact ascending.sublist kept

/-- A jump over the second of three instructions that one line stands for. -/
def patched : Text := "LIW $1, 300\n.ADDRESS 1\n-- again\nL: J %L%\n".toList

theorem words_justified_patched :
    ∃ a k, assemble patched (.new .off) = (.ok a, k) ∧ ⟨1, 4, 0x8000⟩ ∈ a.image ∧
      ⟨1, 4, "J %L%".toList⟩ ∈ a.layout.code ∧
      (a.layout.code.map (·.origin)).Pairwise (· ≤ ·) := by
  have calm : ∀ e ∈ (trace patched).events.toList, e.isFatal = false := by decide +kernel
  obtain ⟨k, ok⟩ := assemble_of_calm (j := .new .off) rfl calm
  have word : ⟨1, 4, 0x8000⟩ ∈ (trace patched).value.image := by decide +kernel
  obtain ⟨justified, -, ascending⟩ := words_justified ok
  obtain ⟨text, -, found, alone⟩ := justified _ word
  have line : text = "L: J %L%".toList := by
    have fourth : (Text.lines patched)[3]? = some "L: J %L%".toList := by decide +kernel
    exact Option.some.inj (found.symm.trans fourth)
  obtain ⟨statements, l, committed, s, own, -, -, -, placed⟩ := alone .off
  have only : s.text = "J %L%".toList := by
    rw [← (Traced.commit_eq_ok.mp committed).1, line] at own
    revert s
    decide +kernel
  rw [only] at placed
  exact ⟨_, k, ok, word, placed, ascending⟩

end Assembly

end Anem
