import Anem.Proofs.Assembly.DroppedLines
import Anem.Proofs.Assembly.Labels
import Anem.Proofs.Assembly.Strict
import Anem.Proofs.Lists
import Anem.Proofs.Pseudo.Wording

namespace Anem

namespace SourceLine

/-- The texts that a line with a pseudo-instruction stands for. -/
inductive Expands (line : SourceLine) : List Text → Prop where
  | nothing (alone : line.body = "NOP".toList) : Expands line [noOperation]
  | pseudo {kind : Pseudo.Kind} {p : Pseudo}
    (named : Pseudo.Kind.ofName? line.mnemonic = some kind)
    (read : Pseudo.read kind line.body = .ok p) : Expands line p.expand

end SourceLine

namespace Statement

/-- Statements of one line with these texts. The label stands on the first, which
has a text or is there for the label alone. -/
structure Carries (n : Nat) (label : Option Text) (texts : List Text) (own : List Statement) :
    Prop where
  origin : ∀ s ∈ own, s.origin = n
  texts : (own.map (·.text)).filter (· ≠ []) = texts
  first : own.head?.bind (·.label) = label
  others : ∀ s ∈ own.tail, s.label = none

theorem Reading.faultless {line : SourceLine} {t : Traced (List Statement)}
    (reading : Reading line t) (known : line.isMissing = false) (none : line.fault? = none) :
    ∀ e ∈ t.events.toList, e.fault? = Option.none := by
  intro e he
  rcases reading.event he with ⟨message, rfl⟩ | ⟨cause, rfl⟩ | ⟨missing, -⟩
  · rfl
  · have reported : (line.number, cause) ∈ t.events.toList.filterMap Event.error? :=
      List.mem_filterMap.mpr ⟨_, he, rfl⟩
    rw [reading.errors, none] at reported
    cases reported
  · rw [known] at missing
    cases missing

theorem Reading.value_of_alone {line : SourceLine} {t : Traced (List Statement)}
    (reading : Reading line t) (alone : line.body = "NOP".toList) :
    t.value = [⟨line.number, line.label, noOperation⟩] := by
  have word := SourceLine.mnemonic_of_alone alone
  cases reading with
  | nothing => rfl
  | blank empty =>
    rw [SourceLine.mnemonic_of_blank empty] at word
    cases word
  | crowded named more => exact absurd alone more
  | expanded named | refused named =>
    rw [word] at named
    cases named
  | missing named =>
    rw [SourceLine.isMissing_iff.mp named] at word
    cases word
  | plain present pseudo noNop => exact absurd word noNop

end Statement

namespace SourceLine

open Statement

variable {line : SourceLine} {texts : List Text} (expands : line.Expands texts)

include expands

theorem Expands.faultless : line.isMissing = false ∧ line.fault? = none := by
  cases expands with
  | nothing alone =>
    have word := mnemonic_of_alone alone
    refine ⟨?_, ?_⟩
    · rw [isMissing, word]
      rfl
    · rw [fault?, word, alone]
      rfl
  | pseudo named read =>
    refine ⟨isMissing_of_pseudo named, ?_⟩
    simp only [fault?, named, read]

theorem Expands.carries : Carries line.number line.label texts (ofLine line).value := by
  have reading := reading_ofLine line
  have own := reading.origin
  cases expands with
  | nothing alone =>
    rw [reading.value_of_alone alone] at own ⊢
    exact ⟨own, rfl, rfl, by simp⟩
  | @pseudo kind p named read =>
    have expansion : Pseudo.texts kind line.body = p.expand := by rw [Pseudo.texts, read]
    have value := reading.value_of_pseudo named
    rw [expansion] at value
    have bare : ((labelAlone line.number line.mnemonic line.label).value.map (·.text)).filter
        (· ≠ []) = [] := by
      rw [List.filter_eq_nil_iff]
      intro text given
      obtain ⟨s, hs, rfl⟩ := List.mem_map.mp given
      simpa using text_labelAlone s hs
    have present : p.expand.filter (· ≠ []) = p.expand := by
      rw [List.filter_eq_self]
      intro text given
      have instruction := Pseudo.isInstruction_expand given 0 none
      rw [decide_eq_true_iff]
      rintro rfl
      cases instruction
    have unlabelled : ∀ s ∈ p.expand.map (fun text => (⟨line.number, none, text⟩ : Statement)),
        s.label = none := by
      intro s hs
      obtain ⟨text, -, rfl⟩ := List.mem_map.mp hs
      rfl
    have texts : (((ofLine line).value.map (·.text)).filter (· ≠ [])) = p.expand := by
      rw [value, List.map_append, List.filter_append, bare, List.map_map, List.nil_append]
      exact (congrArg _ (List.map_id _)).trans present
    rw [value] at own texts ⊢
    refine ⟨own, texts, ?_, ?_⟩
    · cases line.label with
      | some name => rfl
      | none =>
        rw [Option.bind_eq_none_iff]
        exact fun s hs => unlabelled s (List.mem_of_mem_head? hs)
    · cases line.label with
      | some name => exact unlabelled
      | none => exact fun s hs => unlabelled s (List.mem_of_mem_tail hs)

/-- The first item of the line is its first instruction, at the place of the line. -/
theorem Expands.first_of_codeOf {source : Text} {before after : List SourceLine}
    (split : ofSource source = before ++ line :: after) {first : Item} {rest : List Item}
    (placed : (Assembly.trace source).value.layout.codeOf line.number = first :: rest) :
    texts.head? = some first.text ∧
      first.address.toNat = Layout.position (ofLines before).value := by
  cases expands with
  | nothing alone =>
    obtain ⟨earlier, later⟩ := Assembly.origin_ne_of_split split
    have own : ∀ s ∈ (ofLine line).value, s.origin = line.number := (reading_ofLine line).origin
    have spots := Layout.codeOf_ofStatements earlier own later
    rw [← Assembly.statements_split split] at spots
    change ((Assembly.trace source).value.layout.codeOf line.number).map Layout.spot = _ at spots
    rw [placed, (reading_ofLine line).value_of_alone alone, gather, gather, List.append_nil,
      List.append_nil, Layout.placement, Layout.landing, List.map_cons] at spots
    split at spots
    · obtain ⟨place, same⟩ := Prod.mk.inj (List.cons.inj spots).1
      obtain ⟨-, text⟩ := Prod.mk.inj same
      exact ⟨congrArg some text.symm, place⟩
    · cases spots
  | @pseudo kind p named read =>
    have code := Assembly.codeOf_pseudo split named
    rw [placed, Pseudo.texts, read, List.map_cons] at code
    exact head_of_zipIdx code.symm

/-- The label of the line is that of its first statement, before anything of the
line is placed. So it has the address of the first instruction. -/
theorem Expands.get?_label {source : Text} {before after : List SourceLine}
    (split : ofSource source = before ++ line :: after) {name : Text}
    (labelled : line.label = some name)
    (new : (Layout.ofStatements (ofLines before).value).value.symbols.get? name = none)
    {first : Item} {rest : List Item}
    (placed : (Assembly.trace source).value.layout.codeOf line.number = first :: rest) :
    (Assembly.trace source).value.layout.symbols.get? name =
      some (first.address.toNat : Int) := by
  obtain ⟨s, others, own, named⟩ : ∃ s others, (ofLine line).value = s :: others ∧
      s.label = some name := by
    have head := expands.carries.first.trans labelled
    obtain ⟨s, found, named⟩ := Option.bind_eq_some_iff.mp head
    obtain ⟨others, own⟩ := List.head?_eq_some_iff.mp found
    exact ⟨s, others, own, named⟩
  have place := (expands.first_of_codeOf split placed).2
  have room : Layout.position (ofLines before).value ≤ addressLimit := by
    rw [← place]
    exact Nat.le_of_lt first.address.isLt
  have whole := Assembly.statements_split split
  rw [own, List.cons_append] at whole
  change (Layout.ofStatements (Assembly.trace source).value.statements).value.symbols.get? name = _
  rw [whole, Layout.get?_of_new_label new named, Nat.min_eq_left room, place]

theorem Expands.commit (j : Journal) :
    ∃ k, (ofLines [line]).commit j = (.ok (ofLine line).value, k) ∧ k.errors = j.errors := by
  obtain ⟨known, faultless⟩ := expands.faultless
  have quiet : ∀ e ∈ (ofLines [line]).events.toList, e.fault? = none := by
    rw [events_ofLines, List.flatMap_singleton]
    exact (reading_ofLine line).faultless known faultless
  obtain ⟨k, absorbed, -, errors, -⟩ := Journal.absorb_setFatal quiet j
  have value : (ofLines [line]).value = (ofLine line).value := by
    rw [value_ofLines, List.flatMap_singleton]
  exact ⟨k, Traced.commit_eq_ok.mpr ⟨value, absorbed⟩, errors⟩

end SourceLine

namespace Statement

open Instruction (parse)

/-- A line that asks for instructions stands for texts that are read as these. -/
theorem expands_of_asks {line : SourceLine} {label : Option Text} {body : Text}
    {steps : List (Instruction × Word)} (spoken : Spoken line.text label body)
    (asks : Pseudo.Asks body steps) : line.label = label ∧
      ∃ texts, line.Expands texts ∧ texts.map parse = steps.map fun step => .ok step.1 := by
  obtain ⟨-, rfl, rfl⟩ := parts_of_spoken spoken asks.compact
  refine ⟨rfl, ?_⟩
  rcases asks.read with ⟨alone, pause⟩ | ⟨kind, p, named, read, means⟩
  · refine ⟨[noOperation], .nothing alone, ?_⟩
    have zero : Pseudo.Names ['0'] .zero := by decide
    have only := Pseudo.parse_arith .add zero zero
    have shape : steps.map (fun step => (.ok step.1 : Except Fault Instruction)) =
        (steps.map Prod.fst).map .ok := by rw [List.map_map]; rfl
    rw [shape, pause]
    exact congrArg (· :: []) only
  · refine ⟨p.expand, .pseudo named read, ?_⟩
    rw [Pseudo.parse_expand means, List.map_map]
    rfl

/-- **A pseudo-instruction gives the words that it asks for.** Take a line that
has a label or none and asks for instructions, in any letter case, with any
spacing and with a comment or none. By itself it goes through in every journal
without an error, and gives texts that are read as these instructions, each of
which has its word at every address and for all symbols. In a run over a whole
source its statements are the same and no error is counted on it; and its label,
unless it is defined earlier, has the address of the first of the instructions
if this one is in the code. -/
theorem pseudo_lines_expand {line : SourceLine} {label : Option Text} {body : Text}
    {steps : List (Instruction × Word)} (spoken : Spoken line.text label body)
    (asks : Pseudo.Asks body steps) :
    ∃ own texts, Carries line.number label texts own ∧
      texts.map parse = steps.map (fun step => .ok step.1) ∧
      (∀ step ∈ steps, ∀ address symbols, step.1.encode address symbols = .ok step.2) ∧
      (∀ j, ∃ k, (ofLines [line]).commit j = (.ok own, k) ∧ k.errors = j.errors) ∧
      ∀ {source : Text} {before after : List SourceLine} {i k : Journal}
        {statements : List Statement},
        SourceLine.ofSource source = before ++ line :: after →
        (ofLines (SourceLine.ofSource source)).commit i = (.ok statements, k) →
        (statements.filter fun s => s.origin = line.number) = own ∧
        (k.complaints.filter fun r => r.line = some line.number) =
          (i.complaints.filter fun r => r.line = some line.number) ∧
        ∀ {j l : Journal} {layout : Layout} {name : Text} {first : Item} {rest : List Item},
          (Layout.ofStatements statements).commit j = (.ok layout, l) → label = some name →
          (Layout.ofStatements (ofLines before).value).value.symbols.get? name = none →
          layout.codeOf line.number = first :: rest →
          texts.head? = some first.text ∧
            layout.symbols.get? name = some (first.address.toNat : Int) := by
  obtain ⟨rfl, texts, expands, read⟩ := expands_of_asks spoken asks
  refine ⟨(ofLine line).value, texts, expands.carries, read, asks.encode, expands.commit, ?_⟩
  intro source before after i k statements split ok
  have given : line ∈ SourceLine.ofSource source := by simp [split]
  obtain ⟨rfl, absorbed⟩ := Traced.commit_eq_ok.mp ok
  refine ⟨statements_of_line given, ?_, ?_⟩
  · rw [(Journal.grown_of_absorb absorbed).complaints, errors_ofLines, List.filter_append,
      complaints_of_line given, expands.faultless.2]
    exact List.append_nil _
  · intro j l layout name first rest committed labelled new placed
    obtain ⟨rfl, -⟩ := Traced.commit_eq_ok.mp committed
    exact ⟨(expands.first_of_codeOf split placed).1, expands.get?_label split labelled new placed⟩

/-- A labelled load in mixed case, with odd spacing and a comment. -/
def looseLoad : SourceLine := ⟨2, " lOOp :l\u0131W\t$03 , -0002 -- down".toList⟩

def looseSource : Text := "HAB\n".toList ++ looseLoad.text

theorem pseudo_lines_expand_loose :
    ∃ statements layout k l texts,
      SourceLine.ofSource looseSource = [⟨1, "HAB".toList⟩, looseLoad] ∧
      (ofLines (SourceLine.ofSource looseSource)).commit (.new .off) = (.ok statements, k) ∧
      (Layout.ofStatements statements).commit k = (.ok layout, l) ∧
      Carries 2 (some "LOOP".toList) texts (statements.filter fun s => s.origin = 2) ∧
      texts.map parse = [.ok (.loadByte .liu 3 (.literal 0xFF)),
        .ok (.loadByte .lil 3 (.literal 0xFE)), .ok (.arith .add .zero .zero)] ∧
      (Instruction.loadByte .liu 3 (.literal 0xFF)).encode 7 .empty = .ok 0xC3FF ∧
      layout.symbols.get? "LOOP".toList = some 1 := by
  have headed : Headed ("LOOP".toList ++ ([' '] ++ ':' :: ([] ++ "LIW\t$03 , -0002".toList)))
      (some "LOOP".toList) "LIW\t$03 , -0002".toList := .label (by decide) (by decide) rfl
  have spoken : Spoken looseLoad.text (some "LOOP".toList) "LIW\t$03 , -0002".toList :=
    ⟨[' '], _, [' '], "-- DOWN".toList, by decide +kernel, by decide, by decide,
      Or.inr ⟨" DOWN".toList, rfl, by decide⟩, headed⟩
  have paired : Pseudo.Paired ("$03".toList ++ ([' '] ++ ',' :: ([' '] ++ "-0002".toList)))
      "$03".toList "-0002".toList := .mk (by decide) (by decide)
  have numbered : Register.Written "$03".toList (3 : Register).val :=
    Register.readNumber?_eq_some.mp (by decide)
  have written : Literal.Written .constant "-0002".toList (-2) :=
    Literal.denote?_eq_some.mp (by decide)
  have asks := Pseudo.Asks.liw (⟨by decide, by decide⟩ : Text.Gap ['\t']) paired numbered written
    (by decide) (by decide) (by decide : 0xFF < 0x100) (by decide : 0xFE < 0x100) (by decide)
  obtain ⟨own, texts, carries, read, words, -, whole⟩ := pseudo_lines_expand spoken asks
  have split : SourceLine.ofSource looseSource = [⟨1, "HAB".toList⟩] ++ [looseLoad] := by
    decide +kernel
  have calm : ∀ e ∈ (ofLines (SourceLine.ofSource looseSource)).events.toList,
      e.isFatal = false := by decide +kernel
  obtain ⟨k, ok⟩ := Traced.commit_of_calm (j := .new .off) rfl calm
  have clear : k.fatal = false := (Journal.grown_of_absorb (Traced.commit_eq_ok.mp ok).2).fatal
  obtain ⟨l, laid⟩ := Traced.commit_of_calm clear (Layout.calm_ofStatements _)
  obtain ⟨same, -, label⟩ := whole split ok
  have placed : (Layout.ofStatements
      (ofLines (SourceLine.ofSource looseSource)).value).value.codeOf 2 =
      [⟨1, 2, "LIU $03, 255".toList⟩, ⟨2, 2, "LIL $03, 254".toList⟩, ⟨3, 2, noOperation⟩] := by
    decide +kernel
  have bound := (label laid rfl (by decide +kernel) placed).2
  exact ⟨_, _, k, l, texts, split, ok, laid, same ▸ carries, read,
    words _ List.mem_cons_self 7 .empty, bound⟩

end Statement

end Anem
