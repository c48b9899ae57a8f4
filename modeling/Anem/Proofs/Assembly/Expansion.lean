import Anem.Proofs.Assembly.Provenance
import Anem.Proofs.Layout.Runs
import Anem.Proofs.Pseudo

namespace Anem

theorem Pseudo.isInstruction_expand {p : Pseudo} {text : Text} (h : text ∈ p.expand) (n : Nat)
    (label : Option Text) : (⟨n, label, text⟩ : Statement).isInstruction = true := by
  cases p with
  | loadWord digits word =>
    simp only [expand, byteByByte, List.cons_append, List.nil_append, List.mem_cons,
      List.not_mem_nil, or_false] at h
    rcases h with rfl | rfl | rfl
    · rfl
    · rfl
    · rfl
  | move target source | loadHigh word | loadLow word =>
    simp only [expand, byteByByte, List.mem_cons, List.not_mem_nil, or_false] at h
    rcases h with rfl | rfl
    · rfl
    · rfl

theorem Pseudo.expand_ne_nil (p : Pseudo) : p.expand ≠ [] := by
  cases p with
  | loadWord | move | loadHigh | loadLow => exact List.cons_ne_nil _ _

/-- What a pseudo-instruction is expanded to: nothing if its operands are
refused. -/
def Pseudo.texts (kind : Kind) (body : Text) : List Text :=
  match read kind body with
  | .ok pseudo => pseudo.expand
  | .error _ => []

namespace Statement

theorem text_labelAlone {n : Nat} {mnemonic : Text} {label : Option Text} :
    ∀ s ∈ (labelAlone n mnemonic label).value, s.text = [] := by
  intro s hs
  obtain ⟨name, -, rfl⟩ := mem_labelAlone hs
  rfl

theorem Reading.value_of_pseudo {line : SourceLine} {t : Traced (List Statement)}
    (reading : Reading line t) {kind : Pseudo.Kind}
    (named : Pseudo.Kind.ofName? line.mnemonic = some kind) :
    t.value = (labelAlone line.number line.mnemonic line.label).value ++
      (Pseudo.texts kind line.body).map fun text => ⟨line.number, none, text⟩ := by
  cases reading with
  | expanded same read =>
    cases named.symm.trans same
    simp only [Traced.value_andThen, Pseudo.texts, read]
    rfl
  | refused same read =>
    cases named.symm.trans same
    simp only [Traced.value_andThen, Pseudo.texts, read, List.map_nil, List.append_nil]
  | blank empty =>
    rw [SourceLine.mnemonic_of_blank empty] at named
    cases named
  | nothing alone =>
    rw [SourceLine.mnemonic_of_alone alone] at named
    cases named
  | crowded nop =>
    rw [nop] at named
    cases named
  | missing missing =>
    rw [SourceLine.isMissing_of_pseudo named] at missing
    cases missing
  | plain present other =>
    rw [other] at named
    cases named

end Statement

namespace Pseudo

theorem isInstruction_texts {kind : Kind} {body text : Text} (h : text ∈ texts kind body) (n : Nat) :
    (⟨n, none, text⟩ : Statement).isInstruction = true := by
  rw [texts] at h
  split at h
  · exact isInstruction_expand h n none
  · cases h

/-- Every instruction of an expansion has a word if the registers exist. -/
theorem encode_expand {p : Pseudo} (proper : p.Proper) {text : Text} (h : text ∈ p.expand)
    (address : Address) (n : Nat) (symbols : SymbolTable) :
    ∃ bits, (⟨address, n, text⟩ : Item).encode symbols = .ok bits := by
  obtain ⟨instructions, means⟩ := exists_means proper
  have read : Instruction.parse text ∈ p.expand.map Instruction.parse := List.mem_map_of_mem h
  rw [parse_expand means] at read
  obtain ⟨ins, given, parsed⟩ := List.mem_map.mp read
  obtain ⟨bits, word⟩ := encode_means means given address symbols
  exact ⟨bits, Fault.bind_eq_ok.mpr ⟨ins, parsed.symm, word⟩⟩

end Pseudo

namespace Assembly

/-- Every instruction that a line stands for is in the code and has a word, or
none of the line's has. -/
def AllOrNothing (a : Assembly) (line : Nat) (texts : List Text) : Prop :=
  ((a.layout.codeOf line).map (·.text) = texts ∧
    ∀ item ∈ a.layout.codeOf line, ∃ bits, item.encode a.layout.symbols = .ok bits) ∨
  ∀ item ∈ a.layout.codeOf line, ¬ ∃ bits, item.encode a.layout.symbols = .ok bits

section Placed

variable {a : Assembly} {line n : Nat} {pseudo : Pseudo}
  (code : (a.layout.codeOf line).map (fun item => (item.text, item.address.toNat)) =
    (pseudo.expand.take (addressLimit - n)).zipIdx n)
  (proper : pseudo.Proper)

include code proper

theorem encode_of_codeOf :
    ∀ item ∈ a.layout.codeOf line, ∃ bits, item.encode a.layout.symbols = .ok bits := by
  intro item placed
  have spot := code ▸ List.mem_map_of_mem placed
  have own := List.mem_of_mem_take (List.fst_mem_of_mem_zipIdx spot)
  exact Pseudo.encode_expand proper own item.address item.origin _

/-- An expansion that fits is there as a whole, one that starts behind the last
address not at all. -/
theorem allOrNothing_of_codeOf
    (whole : n + pseudo.expand.length ≤ addressLimit ∨ addressLimit ≤ n) :
    AllOrNothing a line pseudo.expand := by
  rcases whole with fits | full
  · left
    have all : pseudo.expand.take (addressLimit - n) = pseudo.expand :=
      List.take_of_length_le (by omega)
    have texts := congrArg (List.map Prod.fst) code
    rw [List.map_map, List.zipIdx_map_fst, all] at texts
    exact ⟨texts, encode_of_codeOf code proper⟩
  · right
    have none : addressLimit - n = 0 := by omega
    have empty : a.layout.codeOf line = [] := by
      apply List.map_eq_nil_iff.mp
      rw [code, none]
      rfl
    simp [empty]

end Placed

section Line

variable {source : Text} {before after : List SourceLine} {line : SourceLine} {kind : Pseudo.Kind}
  (split : SourceLine.ofSource source = before ++ line :: after)
  (named : Pseudo.Kind.ofName? line.mnemonic = some kind)

include split

theorem statements_split : (trace source).value.statements =
    (Statement.ofLines before).value ++
      ((Statement.ofLine line).value ++ (Statement.ofLines after).value) := by
  change (Statement.ofLines (SourceLine.ofSource source)).value = _
  rw [split, Statement.value_ofLines, List.flatMap_append, List.flatMap_cons,
    Statement.value_ofLines, Statement.value_ofLines]

theorem origin_ne_of_split :
    (∀ s ∈ (Statement.ofLines before).value, s.origin ≠ line.number) ∧
      ∀ s ∈ (Statement.ofLines after).value, s.origin ≠ line.number := by
  have ascending := SourceLine.ascending_ofSource source
  rw [split, List.pairwise_append, List.pairwise_cons] at ascending
  obtain ⟨-, ⟨later, -⟩, earlier⟩ := ascending
  constructor
  · intro s hs
    obtain ⟨other, given, -, number⟩ := Statement.of_mem_ofLines hs
    have less := earlier other given line List.mem_cons_self
    omega
  · intro s hs
    obtain ⟨other, given, -, number⟩ := Statement.of_mem_ofLines hs
    have less := later other given
    omega

include named

/-- The code of a pseudo-instruction is its expansion, from the place of its
line on and as far as the address space reaches. -/
theorem codeOf_pseudo :
    ((trace source).value.layout.codeOf line.number).map
        (fun item => (item.text, item.address.toNat)) =
      ((Pseudo.texts kind line.body).take
        (addressLimit - Layout.position (Statement.ofLines before).value)).zipIdx
        (Layout.position (Statement.ofLines before).value) := by
  change ((Layout.ofStatements (trace source).value.statements).value.codeOf _).map _ = _
  rw [statements_split split, (Statement.reading_ofLine line).value_of_pseudo named]
  obtain ⟨earlier, later⟩ := origin_ne_of_split split
  exact Layout.codeOf_run _ Statement.text_labelAlone
    (fun _ given => Pseudo.isInstruction_texts given line.number) earlier
    Statement.origin_labelAlone later

theorem faults_pseudo (present : Pseudo.texts kind line.body ≠ [])
    (beyond : addressLimit < Layout.position (Statement.ofLines before).value +
      (Pseudo.texts kind line.body).length) :
    (line.number, .fieldRange addressLimit 16) ∈
      gather Layout.faults (trace source).value.statements := by
  rw [statements_split split, (Statement.reading_ofLine line).value_of_pseudo named]
  exact Layout.faults_run _ Statement.text_labelAlone
    (fun _ given => Pseudo.isInstruction_texts given line.number) present beyond

end Line

/-- **A pseudo-instruction is placed as a whole, unless the address space ends
inside it.** In a run that goes through, a line with refused operands is
reported and gives no code. The instructions of any other line take the places
from that of the line on, as far as the address space reaches, and a line that
it does not hold is reported. If the registers of the line exist, each
instruction in the code has a word: so the line is there as a whole or not at
all, except where the last address comes before its last instruction. -/
theorem expansions_placed {source : Text} {j k : Journal} {a : Assembly}
    (ok : assemble source j = (.ok a, k)) {before after : List SourceLine} {line : SourceLine}
    (split : SourceLine.ofSource source = before ++ line :: after) {kind : Pseudo.Kind}
    (named : Pseudo.Kind.ofName? line.mnemonic = some kind) :
    let n := Layout.position (Statement.ofLines before).value
    (∀ cause, Pseudo.read kind line.body = .error cause →
      a.layout.codeOf line.number = [] ∧
      Journal.complaint (line.number, cause) ∈ k.complaints) ∧
    ∀ pseudo, Pseudo.read kind line.body = .ok pseudo →
      (a.layout.codeOf line.number).map (fun item => (item.text, item.address.toNat)) =
        (pseudo.expand.take (addressLimit - n)).zipIdx n ∧
      (addressLimit < n + pseudo.expand.length →
        Journal.complaint (line.number, .fieldRange addressLimit 16) ∈ k.complaints) ∧
      (pseudo.Proper → ∀ item ∈ a.layout.codeOf line.number,
        ∃ bits, item.encode a.layout.symbols = .ok bits) ∧
      (pseudo.Proper → n + pseudo.expand.length ≤ addressLimit ∨ addressLimit ≤ n →
        AllOrNothing a line.number pseudo.expand) := by
  intro n
  have given : line ∈ SourceLine.ofSource source := by simp [split]
  have code := codeOf_pseudo split named
  have cut := faults_pseudo split named
  obtain ⟨rfl, -⟩ := assemble_eq_ok.mp ok
  constructor
  · intro cause refused
    have nothing : Pseudo.texts kind line.body = [] := by rw [Pseudo.texts, refused]
    have fault : line.fault? = some (line.number, cause) := by
      simp only [SourceLine.fault?, named, refused]
    rw [nothing, List.take_nil] at code
    exact ⟨List.map_eq_nil_iff.mp code, complaint_of_line ok given fault⟩
  · intro pseudo read
    have texts : Pseudo.texts kind line.body = pseudo.expand := by rw [Pseudo.texts, read]
    rw [texts] at code cut
    exact ⟨code, fun beyond => complaint_of_statement ok (cut pseudo.expand_ne_nil beyond),
      encode_of_codeOf code, allOrNothing_of_codeOf code⟩

/-- A line whose expansion takes the last two addresses. -/
def brimming : Text := ".ADDRESS 0xFFFE\nX: MOVE $1, $2\n".toList

theorem expansions_placed_brimming :
    ∃ a k, assemble brimming (.new .off) = (.ok a, k) ∧
      (Pseudo.move "1".toList "2".toList).Proper ∧
      AllOrNothing a 2 ["AND $1, $0".toList, "OR $1, $2".toList] ∧
      (a.layout.codeOf 2).map (fun item => (item.text, item.address.toNat)) =
        [("AND $1, $0".toList, 0xFFFE), ("OR $1, $2".toList, 0xFFFF)] := by
  have calm : ∀ e ∈ (trace brimming).events.toList, e.isFatal = false := by decide +kernel
  obtain ⟨k, ok⟩ := assemble_of_calm (j := .new .off) rfl calm
  have split : SourceLine.ofSource brimming =
      [⟨1, ".ADDRESS 0xFFFE".toList⟩] ++ [⟨2, "X: MOVE $1, $2".toList⟩] := by decide +kernel
  have read : Pseudo.read .move (SourceLine.body ⟨2, "X: MOVE $1, $2".toList⟩) =
      .ok (.move "1".toList "2".toList) := by decide +kernel
  have named : Pseudo.Kind.ofName? (SourceLine.mnemonic ⟨2, "X: MOVE $1, $2".toList⟩) =
      some .move := by decide +kernel
  have place : Layout.position (Statement.ofLines [⟨1, ".ADDRESS 0xFFFE".toList⟩]).value =
      0xFFFE := by decide +kernel
  have proper : (Pseudo.move "1".toList "2".toList).Proper := by
    intro digits given
    simp only [Pseudo.registers, List.mem_cons, List.not_mem_nil, or_false] at given
    rcases given with rfl | rfl
    · exact ⟨1, by decide⟩
    · exact ⟨2, by decide⟩
  obtain ⟨-, placed⟩ := expansions_placed ok split named
  obtain ⟨code, -, -, whole⟩ := placed _ read
  rw [place] at code whole
  exact ⟨_, k, ok, proper, whole proper (Or.inl (by decide)), code⟩

/-- A line whose expansion starts at the last address. -/
def cutShort : Text := ".ADDRESS 0xFFFF\nLIW $1, 5\n".toList

/-- A pseudo-instruction need not be placed as a whole. -/
theorem expansion_cut_short :
    ∃ a k, assemble cutShort (.new .off) = (.ok a, k) ∧
      ⟨2, "LIW $1, 5".toList⟩ ∈ SourceLine.ofSource cutShort ∧
      Pseudo.Kind.ofName? (SourceLine.mnemonic ⟨2, "LIW $1, 5".toList⟩) = some .liw ∧
      ∃ pseudo, Pseudo.read .liw (SourceLine.body ⟨2, "LIW $1, 5".toList⟩) = .ok pseudo ∧
        ¬ AllOrNothing a 2 pseudo.expand := by
  have calm : ∀ e ∈ (trace cutShort).events.toList, e.isFatal = false := by decide +kernel
  obtain ⟨k, ok⟩ := assemble_of_calm (j := .new .off) rfl calm
  have only : (trace cutShort).value.layout.codeOf 2 = [⟨0xFFFF, 2, "LIU $1, 0".toList⟩] := by
    decide +kernel
  have word : (⟨0xFFFF, 2, "LIU $1, 0".toList⟩ : Item).encode
      (trace cutShort).value.layout.symbols = .ok 0xC100 := by decide +kernel
  refine ⟨_, k, ok, by decide +kernel, by decide +kernel, .loadWord "1".toList 5,
    by decide +kernel, ?_⟩
  rintro (⟨all, -⟩ | none)
  · rw [only] at all
    exact absurd (congrArg List.length all) (by decide)
  · exact none _ (only ▸ List.mem_singleton_self _) ⟨_, word⟩

end Assembly

end Anem
