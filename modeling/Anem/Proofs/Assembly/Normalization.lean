import Anem.Proofs.Assembly.Renumbered
import Anem.Proofs.Statement.Settled

namespace Anem

open Text

namespace Statement

/-- The run lemma: every statement of a source is settled. -/
theorem settled_ofLines (source : Text) :
    ∀ s ∈ (ofLines (SourceLine.ofSource source)).value, Settled s := by
  intro s hs
  rw [value_ofLines] at hs
  obtain ⟨line, given, own⟩ := List.mem_flatMap.mp hs
  obtain ⟨⟨text, i⟩, found, rfl⟩ := List.mem_map.mp given
  have feed : '\n' ∉ text := feed_of_mem_lines (List.fst_mem_of_mem_zipIdx found)
  exact (reading_ofLine _).settled feed s own

/-- Statements as a source text, one to a line. -/
def printAll (statements : List Statement) : Text :=
  ['\n'].intercalate (statements.map print)

/-- The statements with the numbers of these lines. -/
def renumber (statements : List Statement) : List Statement :=
  statements.zipIdx.map fun p => ⟨p.2 + 1, p.1.label, p.1.text⟩

theorem content_renumber (statements : List Statement) :
    (renumber statements).map content = statements.map content := by
  have kept := congrArg (List.map content) (List.zipIdx_map_fst 0 statements)
  rw [List.map_map] at kept
  rw [renumber, List.map_map]
  exact kept

theorem origin_renumber (statements : List Statement) :
    (renumber statements).map (·.origin) = List.range' 1 statements.length := by
  have counted := congrArg (List.map (1 + ·)) (List.zipIdx_map_snd 0 statements)
  rw [List.map_map, List.map_add_range'] at counted
  rw [renumber, List.map_map, ← counted]
  apply List.map_congr_left
  intro p _
  exact Nat.add_comm p.2 1

section Settled

variable {statements : List Statement} (settled : ∀ s ∈ statements, Settled s)

include settled

theorem lines_printAll : lines (printAll statements) = statements.map print := by
  apply lines_intercalate
  · intro l hl
    obtain ⟨s, given, rfl⟩ := List.mem_map.mp hl
    exact (settled s given).tidy.feed
  · intro l hl ret
    obtain ⟨s, given, rfl⟩ := List.mem_map.mp hl
    rw [← (settled s given).trimmed] at ret
    exact absurd (last_trim _ _ ret) (by decide)
  · intro l hl
    obtain ⟨s, given, rfl⟩ := List.mem_map.mp hl
    exact (settled s given).present

theorem ofLines_printAll :
    ofLines (SourceLine.ofSource (printAll statements)) = .silent (renumber statements) := by
  have lines : SourceLine.ofSource (printAll statements) =
      statements.zipIdx.map fun p => ⟨p.2 + 1, p.1.print⟩ := by
    rw [SourceLine.ofSource, lines_printAll settled, List.zipIdx_map, List.map_map]
    rfl
  have single : renumber statements =
      statements.zipIdx.flatMap fun p => [⟨p.2 + 1, p.1.label, p.1.text⟩] :=
    List.map_eq_flatMap
  rw [lines, single]
  apply Traced.flatMap_silent
  intro p given
  exact ofLine_print (settled p.1 (List.fst_mem_of_mem_zipIdx given)) (p.2 + 1)

end Settled

end Statement

namespace Assembly

/-- **Statements are a normal form.** Once the lines of a source are read, the
printed statements are a source that is read without any event. It has the same
labels and texts, on lines counted from one. Laid out in new journals, both
have the same symbols and the same places, and the same words or the same
cause to be aborted. -/
theorem normalization_idempotent {source : Text} {v : Verbosity} {out : List Statement}
    {k : Journal}
    (ok : (Statement.ofLines (SourceLine.ofSource source)).commit (.new v) = (.ok out, k))
    (w : Verbosity) :
    ∃ again,
      (Statement.ofLines (SourceLine.ofSource
        (['\n'].intercalate (out.map Statement.print)))).commit (.new w) = (.ok again, .new w) ∧
      again.map (fun s => (s.label, s.text)) = out.map (fun s => (s.label, s.text)) ∧
      again.map (·.origin) = List.range' 1 out.length ∧
      ∃ first second i j,
        (Layout.ofStatements out).commit (.new v) = (.ok first, i) ∧
        (Layout.ofStatements again).commit (.new w) = (.ok second, j) ∧
        first.symbols = second.symbols ∧
        first.code.map (fun item => (item.address, item.text)) =
          second.code.map (fun item => (item.address, item.text)) ∧
        Image.outcome ((Image.ofLayout first).commit (.new v)).1 =
          Image.outcome ((Image.ofLayout second).commit (.new w)).1 := by
  obtain ⟨rfl, -⟩ := Traced.commit_eq_ok.mp ok
  have settled := Statement.settled_ofLines source
  generalize (Statement.ofLines (SourceLine.ofSource source)).value = out at settled
  have same := Statement.content_renumber out
  obtain ⟨i, firstLaid⟩ :=
    Traced.commit_of_calm (j := .new v) rfl (Layout.calm_ofStatements out)
  obtain ⟨j, secondLaid⟩ :=
    Traced.commit_of_calm (j := .new w) rfl (Layout.calm_ofStatements (Statement.renumber out))
  obtain ⟨symbols, places⟩ := Layout.alike_ofStatements same.symm
  refine ⟨Statement.renumber out, ?_, same, Statement.origin_renumber out, _, _, i, j, firstLaid,
    secondLaid, symbols, places, Image.outcome_of_places symbols places v w⟩
  exact Traced.commit_eq_ok.mpr
    ⟨congrArg Traced.value (Statement.ofLines_printAll settled),
      congrArg ((Journal.new w).absorb ·.events.toList) (Statement.ofLines_printAll settled)⟩

/-- A label before a text that holds a colon, and one before an expansion. -/
def glued : Text := "a: b: hab -- end\nx: move $1, $2\n".toList

theorem normalization_idempotent_glued :
    ∃ out k again, (Statement.ofLines (SourceLine.ofSource glued)).commit (.new .off) = (.ok out, k) ∧
      (Statement.ofLines (SourceLine.ofSource
        "A: B: HAB\nX:\nAND $1, $0\nOR $1, $2".toList)).commit (.new .off) = (.ok again, .new .off) ∧
      again.map (fun s => (s.label, s.text)) =
        [(some ['A'], "B: HAB".toList), (some ['X'], []), (none, "AND $1, $0".toList),
          (none, "OR $1, $2".toList)] ∧
      again.map (·.origin) = [1, 2, 3, 4] := by
  have calm : ∀ e ∈ (Statement.ofLines (SourceLine.ofSource glued)).events.toList,
      e.isFatal = false := by decide +kernel
  have value : (Statement.ofLines (SourceLine.ofSource glued)).value =
      [⟨1, some ['A'], "B: HAB".toList⟩, ⟨2, some ['X'], []⟩, ⟨2, none, "AND $1, $0".toList⟩,
        ⟨2, none, "OR $1, $2".toList⟩] := by decide +kernel
  obtain ⟨k, ok⟩ := Traced.commit_of_calm (j := .new .off) rfl calm
  rw [value] at ok
  obtain ⟨again, read, same, lines, -⟩ := normalization_idempotent ok .off
  exact ⟨_, k, again, ok, read, same, lines⟩

end Assembly

end Anem
