import Anem.CommandLine.Script
import Anem.Proofs.Assembly.Lossless
import Anem.Proofs.Lists
import Anem.Proofs.Statement.PrintedLine

namespace Anem

open Text

namespace CommandLine

open Instruction (decode)

/-- The words that stand for an instruction. -/
def decodes (w : Word) : Bool :=
  (decode w).isSome

/-- The line of a word that is decoded is a printed line. -/
theorem line_disassembleWord {w : Word} (h : decodes w = true) :
    ∃ op : Operation, op.Line (disassembleWord w) := by
  obtain ⟨ins, found⟩ := Option.isSome_iff_exists.mp h
  rw [disassembleWord, found]
  exact Instruction.line_of_states (Instruction.states_of_decode found)

theorem disassembleWord_of_not {w : Word} (h : decodes w = false) :
    disassembleWord w = "-- undecodable word ".toList ++ w.binary := by
  have none : decode w = none := Option.isNone_iff_eq_none.mp (by simpa [decodes] using h)
  rw [disassembleWord, none]

/-- No line of a disassembly breaks. -/
theorem not_mem_disassembleWord (w : Word) :
    '\n' ∉ disassembleWord w ∧ '\r' ∉ disassembleWord w := by
  cases h : decodes w with
  | true =>
    obtain ⟨op, line⟩ := line_disassembleWord h
    exact ⟨line.printed.not_mem (by decide), line.printed.not_mem (by decide)⟩
  | false =>
    rw [disassembleWord_of_not h]
    have digits := printed_of_digits fun _ hc => Word.isDigit_of_mem_binary (w := w) hc
    constructor
    · rw [List.mem_append, not_or]
      exact ⟨by decide, digits.not_mem (by decide)⟩
    · rw [List.mem_append, not_or]
      exact ⟨by decide, digits.not_mem (by decide)⟩

theorem ofSource_disassembly (words : List Word) :
    SourceLine.ofSource (disassembly words) =
      words.zipIdx.map fun p => ⟨p.2 + 1, disassembleWord p.1⟩ := by
  have lines : Text.lines (disassembly words) = words.map disassembleWord := by
    apply lines_unlines
    · intro l hl
      obtain ⟨w, -, rfl⟩ := List.mem_map.mp hl
      exact (not_mem_disassembleWord w).1
    · intro l hl ret
      obtain ⟨w, -, rfl⟩ := List.mem_map.mp hl
      exact (not_mem_disassembleWord w).2 (List.mem_of_getLast? ret)
  rw [SourceLine.ofSource, lines, List.zipIdx_map, List.map_map]
  rfl

/-- The statements of a disassembly: its lines that are no comments. -/
def instructionLines (words : List Word) : List Statement :=
  (words.zipIdx.filter fun p => decodes p.1).map fun p => ⟨p.2 + 1, none, disassembleWord p.1⟩

theorem ofLines_disassembly (words : List Word) :
    Statement.ofLines (SourceLine.ofSource (disassembly words)) =
      .silent (instructionLines words) := by
  rw [ofSource_disassembly, instructionLines, ← flatMap_ite]
  apply Traced.flatMap_silent
  intro p _
  cases h : decodes p.1 with
  | true =>
    obtain ⟨op, line⟩ := line_disassembleWord h
    rw [if_pos rfl, Statement.ofLine_line line]
  | false => rw [if_neg (by decide), disassembleWord_of_not h, Statement.ofLine_comment]

theorem text_instructionLines (words : List Word) :
    (instructionLines words).map (·.text) = (words.filter decodes).map disassembleWord := by
  have kept : (words.zipIdx.filter fun p => decodes p.1).map Prod.fst = words.filter decodes := by
    have same := List.filter_map (p := decodes) (f := Prod.fst) (l := words.zipIdx)
    rw [List.zipIdx_map_fst] at same
    exact same.symm
  rw [← kept, instructionLines, List.map_map, List.map_map]
  rfl

theorem straight_instructionLines (words : List Word) :
    Layout.Straight (instructionLines words) := by
  intro s hs
  obtain ⟨p, hp, rfl⟩ := List.mem_map.mp hs
  obtain ⟨op, line⟩ := line_disassembleWord (List.mem_filter.mp hp).2
  refine ⟨rfl, Statement.role_of_other line.shape.ne_nil ?_⟩
  intro rest dot
  have spelled : disassembleWord p.1 = '.' :: rest := dot
  have first : '.' ∈ disassembleWord p.1 := by
    rw [spelled]
    exact List.mem_cons_self
  exact absurd first (line.printed.not_mem (by decide))

theorem length_instructionLines (words : List Word) :
    (instructionLines words).length = words.countP decodes := by
  have same := congrArg List.length (text_instructionLines words)
  rw [List.length_map, List.length_map, ← List.countP_eq_length_filter] at same
  exact same

/-- The line of a word has that word, wherever it stands. -/
theorem encode_of_text {w : Word} (h : decodes w = true) {item : Item}
    (text : item.text = disassembleWord w) (symbols : SymbolTable) :
    item.encode symbols = .ok w := by
  obtain ⟨ins, found⟩ := Option.isSome_iff_exists.mp h
  rw [disassembleWord, found] at text
  have read : Instruction.parse item.text = .ok ins := by
    rw [text]
    exact Instruction.parse_of_decode found
  rw [Item.encode, read]
  exact Instruction.encode_of_decode found item.address symbols

end CommandLine

namespace Assembly

open CommandLine

/-- Every word of a run that goes through stands for an instruction. -/
theorem decodes_of_ok {source : Text} {j k : Journal} {a : Assembly}
    (ok : assemble source j = (.ok a, k)) : ∀ w ∈ a.image, decodes w.bits = true := by
  obtain ⟨rfl, -⟩ := assemble_eq_ok.mp ok
  intro w hw
  obtain ⟨item, -, -, -, outcome⟩ := Image.encode_of_mem_ofLayout hw
  obtain ⟨ins, read, word⟩ := Fault.bind_eq_ok.mp outcome
  rw [decodes, Instruction.decode_of_encode read word]
  rfl

/-- The layout of a disassembly. -/
def relaid (words : List Word) : Layout :=
  (Layout.ofStatements (instructionLines words)).value

theorem layout_disassembly (words : List Word) :
    (trace (disassembly words)).value.layout = relaid words := by
  rw [trace, ofLines_disassembly]
  rfl

section Disassembly

variable {words : List Word} (fits : words.countP decodes ≤ addressLimit)

include fits

theorem faults_disassembly : gather Layout.faults (instructionLines words) = [] := by
  rw [← length_instructionLines] at fits
  exact Layout.faults_of_straight (straight_instructionLines words) fits

theorem address_disassembly :
    (relaid words).code.map (·.address.toNat) = List.range (words.countP decodes) := by
  rw [← length_instructionLines] at fits ⊢
  exact Layout.addresses_of_straight (straight_instructionLines words) fits

theorem text_disassembly :
    (relaid words).code.map (·.text) = (words.filter decodes).map disassembleWord := by
  have straight := straight_instructionLines words
  have all : (instructionLines words).filter Statement.isInstruction = instructionLines words :=
    List.filter_eq_self.mpr fun s hs => Statement.isInstruction_iff.mpr (straight s hs).2
  have same := congrArg (List.map Prod.snd) (Layout.code_of_no_faults (faults_disassembly fits))
  rw [all, List.map_map, List.map_map] at same
  exact same.trans (text_instructionLines words)

theorem encode_disassembly :
    ∀ item ∈ (relaid words).code, ∃ w, item.encode (relaid words).symbols = .ok w := by
  intro item placed
  have text := List.mem_map_of_mem (f := (·.text)) placed
  rw [text_disassembly fits] at text
  obtain ⟨w, kept, same⟩ := List.mem_map.mp text
  exact ⟨w, encode_of_text (List.mem_filter.mp kept).2 same.symm _⟩

/-- The image of a disassembly: the words that stand for an instruction, from
address zero on. -/
theorem image_disassembly :
    let image := (Image.ofLayout (relaid words)).value
    image.map (·.address.toNat) = List.range (words.countP decodes) ∧
    image.map (·.bits) = words.filter decodes := by
  intro image
  have addresses := address_disassembly fits
  have ascending : ((relaid words).code.map (·.address.toNat)).Pairwise (· < ·) := by
    rw [addresses]
    exact List.pairwise_lt_range
  have value : image = (relaid words).code.map fun item =>
      ⟨item.address, item.origin, item.bits (relaid words).symbols⟩ :=
    Image.value_of_encoded (encode_disassembly fits) ascending
  rw [value, List.map_map, List.map_map]
  -- The texts are those of the words, and the word of a text is the one it was printed from.
  refine ⟨addresses, map_eq_of_map_eq (text_disassembly fits) ?_⟩
  intro item _ w kept same
  exact Item.bits_of_ok (encode_of_text (List.mem_filter.mp kept).2 same _)

/-- No pass over a disassembly reports an error. -/
theorem quiet_disassembly : ∀ e ∈ (trace (disassembly words)).events.toList,
    e.error? = none ∧ e.isFatal = false := by
  intro e he
  have statements : (trace (disassembly words)).value.statements = instructionLines words :=
    congrArg Traced.value (ofLines_disassembly words)
  rw [events_trace, ofLines_disassembly, statements, layout_disassembly, List.mem_append,
    List.mem_append] at he
  rcases he with he | he | he
  · cases he
  · have noErrors := Layout.errors_ofStatements (instructionLines words)
    rw [faults_disassembly fits] at noErrors
    exact ⟨List.filterMap_eq_nil_iff.mp noErrors e he, Layout.calm_ofStatements _ e he⟩
  · exact Image.quiet_of_encoded (encode_disassembly fits) e he

theorem overlaps_disassembly : Layout.overlaps (relaid words).code = [] := by
  apply Layout.overlaps_of_nodup
  apply List.Nodup.of_map BitVec.toNat
  rw [List.map_map]
  exact address_disassembly fits ▸ List.nodup_range

end Disassembly

/-- **Reassembly is the identity.** Every word of a run that goes through is
decoded. The other way, the disassembly of words of which no more than the
address space holds are decoded goes through without an error or a warning, and
gives back exactly these, in order and from address zero on. -/
theorem reassembly_identity :
    (∀ (source : Text) (j k : Journal) (a : Assembly), assemble source j = (.ok a, k) →
      ∀ w ∈ a.image, (Instruction.decode w.bits).isSome = true) ∧
    (∀ (words : List Word) (v : Verbosity), words.countP decodes ≤ addressLimit →
      ∃ a k, assemble (disassembly words) (.new v) = (.ok a, k) ∧ k.errors = 0 ∧ k.warnings = 0 ∧
        a.image.map (·.address.toNat) = List.range a.image.length ∧
        a.image.map (·.bits) = words.filter decodes) := by
  refine ⟨fun source j k a ok => decodes_of_ok ok, ?_⟩
  intro words v fits
  have quiet := quiet_disassembly fits
  obtain ⟨k, absorbed⟩ := Journal.absorb_of_clear (j := .new v) rfl fun e he => (quiet e he).2
  have ok : assemble (disassembly words) (.new v) = (.ok (trace (disassembly words)).value, k) :=
    assemble_eq_ok.mpr ⟨rfl, absorbed⟩
  have grown := grown_of_assemble ok
  obtain ⟨addresses, bits⟩ := image_disassembly fits
  have image : (trace (disassembly words)).value.image = (Image.ofLayout (relaid words)).value := by
    rw [← layout_disassembly]
    rfl
  rw [← image] at addresses bits
  refine ⟨_, k, ok, ?_, ?_, ?_, bits⟩
  · rw [grown.errors, List.filterMap_eq_nil_iff.mpr fun e he => (quiet e he).1]
    rfl
  · rw [warnings_of_ok ok, layout_disassembly, overlaps_disassembly fits]
    rfl
  · have length := congrArg List.length addresses
    rw [List.length_map, List.length_range] at length
    rw [addresses, length]

/-- Two words with one between them that is not decoded. -/
theorem reassembly_identity_gap :
    ∃ a k, assemble (disassembly [0xF000, 0x0004, 0x7300]) (.new .off) = (.ok a, k) ∧
      a.image.map (·.bits) = [0xF000, 0x7300] ∧
      ∀ w ∈ a.image, (Instruction.decode w.bits).isSome = true := by
  obtain ⟨a, k, ok, -, -, -, bits⟩ :=
    reassembly_identity.2 [0xF000, 0x0004, 0x7300] .off (by decide)
  refine ⟨a, k, ok, bits.trans ?_, reassembly_identity.1 _ _ _ _ ok⟩
  decide

end Assembly

end Anem
