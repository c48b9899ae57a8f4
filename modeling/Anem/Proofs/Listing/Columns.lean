import Anem.Listing
import Anem.Proofs.Assembly.Names
import Anem.Proofs.Assembly.Normalization
import Anem.Proofs.Assembly.Provenance
import Anem.Proofs.Lists
import Anem.Proofs.SymbolTable

namespace Anem

namespace Text

theorem unlines_injective {ls ms : List Text} (left : ∀ l ∈ ls, '\n' ∉ l)
    (right : ∀ l ∈ ms, '\n' ∉ l) (same : unlines ls = unlines ms) : ls = ms := by
  have cut := congrArg cutLines same
  rw [cutLines_unlines left, cutLines_unlines right] at cut
  exact congrArg Prod.fst cut

theorem decimal_injective {m n : Nat} (same : decimal m = decimal n) : m = n := by
  have read := readDigits?_decimal m
  rw [same, readDigits?_decimal] at read
  exact (Option.some.inj read).symm

theorem signedDecimal_injective {v w : Int} (same : signedDecimal v = signedDecimal w) : v = w := by
  have read := Literal.denote?_signedDecimal .operand (v := v) (Or.inl rfl)
  rw [same, Literal.denote?_signedDecimal .operand (Or.inl rfl)] at read
  exact (Option.some.inj read).symm

theorem not_mem_decimal (n : Nat) {c : Char} (other : c.isDigit = false) : c ∉ decimal n := by
  intro hc
  rw [isDigit_of_mem_decimal hc] at other
  cases other

end Text

open Text

namespace Listing

/-! Statements -/

def statementLine (s : Statement) : Text :=
  decimal s.origin ++ '\t' :: s.print

/-- The statement of a line: the number before its first tab, and the label and
the text behind it. -/
def statementOf? (line : Text) : Option Statement :=
  match cutAt? '\t' line with
  | some (number, rest) =>
    (readDigits? 10 number).map fun n =>
      ⟨n, (Statement.splitLabel rest).1, (Statement.splitLabel rest).2⟩
  | none => none

theorem statementOf?_line {s : Statement} (settled : s.Settled) :
    statementOf? (statementLine s) = some s := by
  have cut : cutAt? '\t' (statementLine s) = some (decimal s.origin, s.print) :=
    cutAt?_eq_some.mpr ⟨not_mem_decimal _ (by decide), rfl⟩
  simp only [statementOf?, cut, readDigits?_decimal, settled.split, Option.map_some]

/-- Every statement has its line. -/
theorem lines_statements {out : List Statement} (settled : ∀ s ∈ out, s.Settled) :
    lines (statements out) = out.map statementLine := by
  apply lines_unlines
  · intro line given feed
    obtain ⟨s, hs, rfl⟩ := List.mem_map.mp given
    rcases List.mem_append.mp feed with number | rest
    · exact not_mem_decimal _ (by decide) number
    · rcases List.mem_cons.mp rest with tab | rest
      · cases tab
      · exact (settled s hs).tidy.feed rest
  · intro line given ret
    obtain ⟨s, hs, rfl⟩ := List.mem_map.mp given
    rw [List.getLast?_append_cons, List.getLast?_cons_of_ne_nil (settled s hs).present,
      ← (settled s hs).trimmed] at ret
    exact absurd (last_trim _ _ ret) (by decide)

/-! Layouts -/

def entryLine (e : Text × Int) : Text :=
  e.1 ++ '\t' :: signedDecimal e.2

def itemLine (item : Item) : Text :=
  decimal item.address.toNat ++ '\t' :: decimal item.origin ++ '\t' :: item.text

def layoutLines (l : Layout) : List Text :=
  ".LABELS".toList :: l.symbols.entries.map entryLine ++ ".CODE".toList :: l.code.map itemLine

theorem layout_eq (l : Layout) : layout l = unlines (layoutLines l) := rfl

/-- No name holds a tab or a line feed, and no text a line feed. -/
structure Legible (l : Layout) : Prop where
  name : ∀ e ∈ l.symbols.entries, '\t' ∉ e.1 ∧ '\n' ∉ e.1
  text : ∀ item ∈ l.code, '\n' ∉ item.text

theorem entryLines_injective {es fs : List (Text × Int)} (left : ∀ e ∈ es, '\t' ∉ e.1)
    (right : ∀ f ∈ fs, '\t' ∉ f.1) (same : es.map entryLine = fs.map entryLine) : es = fs := by
  induction es generalizing fs with
  | nil => exact (List.map_eq_nil_iff.mp same.symm).symm
  | cons e es ih =>
    cases fs with
    | nil => cases same
    | cons f fs =>
      obtain ⟨first, rest⟩ := List.cons.inj same
      obtain ⟨name, value⟩ := append_mark_injective (left e List.mem_cons_self)
        (right f List.mem_cons_self) first
      have entry : e = f := Prod.ext name (signedDecimal_injective value)
      rw [entry, ih (fun d hd => left d (List.mem_cons_of_mem _ hd))
        (fun d hd => right d (List.mem_cons_of_mem _ hd)) rest]

theorem itemLine_injective : Function.Injective itemLine := by
  rintro ⟨a, m, s⟩ ⟨b, n, t⟩ same
  simp only [itemLine, List.append_assoc, List.cons_append] at same
  obtain ⟨address, rest⟩ := append_mark_injective (not_mem_decimal _ (by decide))
    (not_mem_decimal _ (by decide)) same
  obtain ⟨origin, rfl⟩ := append_mark_injective (not_mem_decimal _ (by decide))
    (not_mem_decimal _ (by decide)) rest
  cases BitVec.eq_of_toNat_eq (decimal_injective address)
  cases decimal_injective origin
  rfl

theorem feed_of_mem_layoutLines {l : Layout} (legible : Legible l) :
    ∀ line ∈ layoutLines l, '\n' ∉ line := by
  intro line given
  rcases List.mem_append.mp given with given | given
  · rcases List.mem_cons.mp given with rfl | given
    · decide
    · obtain ⟨e, entry, rfl⟩ := List.mem_map.mp given
      intro feed
      rcases List.mem_append.mp feed with name | rest
      · exact (legible.name e entry).2 name
      · rcases List.mem_cons.mp rest with tab | value
        · cases tab
        · exact absurd (mem_signedDecimal value) (by decide)
  · rcases List.mem_cons.mp given with rfl | given
    · decide
    · obtain ⟨item, placed, rfl⟩ := List.mem_map.mp given
      intro feed
      simp only [itemLine, List.append_assoc, List.cons_append, List.mem_append,
        List.mem_cons] at feed
      rcases feed with address | tab | origin | tab | text
      · exact not_mem_decimal _ (by decide) address
      · cases tab
      · exact not_mem_decimal _ (by decide) origin
      · cases tab
      · exact legible.text item placed text

/-- The line that opens the code is no entry. -/
theorem not_mem_entryLines (es : List (Text × Int)) : ".CODE".toList ∉ es.map entryLine := by
  intro h
  obtain ⟨e, -, same⟩ := List.mem_map.mp h
  have tab : '\t' ∈ ".CODE".toList := by
    rw [← same]
    exact List.mem_append_right _ List.mem_cons_self
  exact absurd tab (by decide)

/-- Legible layouts with the same listing are the same. -/
theorem layout_injective {l m : Layout} (left : Legible l) (right : Legible m)
    (same : layout l = layout m) : l.symbols = m.symbols ∧ l.code = m.code := by
  rw [layout_eq, layout_eq] at same
  have lines := unlines_injective (feed_of_mem_layoutLines left)
    (feed_of_mem_layoutLines right) same
  obtain ⟨entries, code⟩ := append_mark_injective (not_mem_entryLines _) (not_mem_entryLines _)
    (List.cons.inj lines).2
  constructor
  · have own := entryLines_injective (fun e he => (left.name e he).1)
      (fun e he => (right.name e he).1) entries
    exact SymbolTable.ext_get? fun name => by rw [SymbolTable.get?, SymbolTable.get?, own]
  · exact List.map_injective_iff.mpr itemLine_injective code

end Listing

theorem Statement.text_subset_print (s : Statement) : s.text ⊆ s.print := by
  intro c hc
  rw [print]
  split
  · rw [if_neg (by simpa using List.ne_nil_of_mem hc)]
    exact List.mem_append_right _ (List.mem_cons_of_mem _ (List.mem_cons_of_mem _ hc))
  · exact hc

namespace Listing

/-- A source gives a legible layout. -/
theorem legible_ofSource (source : Text) : Legible
    (Layout.ofStatements (Statement.ofLines (SourceLine.ofSource source)).value).value where
  name := by
    rintro ⟨name, value⟩ entry
    obtain ⟨s, given, labelled | constant⟩ :=
      Layout.defined_of_get? (SymbolTable.mem_entries_iff.mp entry)
    · have identifier := Statement.isIdentifier_of_label given labelled
      exact ⟨not_mem_of_isIdentifier identifier (by decide),
        not_mem_of_isIdentifier identifier (by decide)⟩
    · have word := (Statement.constant?_eq_some.mp constant).1.isWordChar
      exact ⟨fun tab => absurd (word _ tab) (by decide +kernel),
        fun feed => absurd (word _ feed) (by decide +kernel)⟩
  text := by
    intro item placed feed
    have kept := (Layout.sublist_code _).subset (List.mem_map.mpr ⟨item, placed, rfl⟩)
    obtain ⟨s, given, same⟩ := List.mem_map.mp kept
    rw [← (Prod.mk.inj same).2] at feed
    exact (Statement.settled_ofLines source s given).tidy.feed (s.text_subset_print feed)

/-- **Both listings are lossless.** Every statement of a source can be read back
from its line. Two sources have the same listing of their layouts only if they
have the same symbols and the same code. -/
theorem listings_lossless {source : Text} {j k : Journal} {out : List Statement}
    (ok : (Statement.ofLines (SourceLine.ofSource source)).commit j = (.ok out, k)) :
    (lines (statements out)).map statementOf? = out.map some ∧
    ∀ {other : Text} {i l : Journal} {again : List Statement},
      (Statement.ofLines (SourceLine.ofSource other)).commit i = (.ok again, l) →
      ∀ {first second : Layout} {j₁ k₁ j₂ k₂ : Journal},
        (Layout.ofStatements out).commit j₁ = (.ok first, k₁) →
        (Layout.ofStatements again).commit j₂ = (.ok second, k₂) →
        (layout first = layout second ↔
          first.symbols = second.symbols ∧ first.code = second.code) := by
  obtain ⟨rfl, -⟩ := Traced.commit_eq_ok.mp ok
  constructor
  · have settled := Statement.settled_ofLines source
    rw [lines_statements settled, List.map_map]
    exact List.map_congr_left fun s hs => statementOf?_line (settled s hs)
  · intro other i l again read first second j₁ k₁ j₂ k₂ laid relaid
    obtain ⟨rfl, -⟩ := Traced.commit_eq_ok.mp read
    obtain ⟨rfl, -⟩ := Traced.commit_eq_ok.mp laid
    obtain ⟨rfl, -⟩ := Traced.commit_eq_ok.mp relaid
    constructor
    · exact layout_injective (legible_ofSource source) (legible_ofSource other)
    · rintro ⟨symbols, code⟩
      rw [layout, layout, symbols, code]

/-- Texts that hold a tab and a colon, and a statement like the line that opens
the code. -/
def tabbed : Text := "A:\tB:\tHAB\r\n.CODE\n.CONSTANT É = 5\n".toList

/-- Another spelling of the same. -/
def respelled : Text := "a : b:\tHab -- end\n.Code\n.constant é = 0x5".toList

theorem listings_lossless_tabbed :
    ∃ out k, (Statement.ofLines (SourceLine.ofSource tabbed)).commit (.new .off) = (.ok out, k) ∧
      (lines (statements out)).map statementOf? =
        [some ⟨1, some ['A'], "B:\tHAB".toList⟩, some ⟨2, none, ".CODE".toList⟩,
          some ⟨3, none, ".CONSTANT É = 5".toList⟩] ∧
      ∃ first second i j, (Layout.ofStatements out).commit (.new .off) = (.ok first, i) ∧
        (Layout.ofStatements (Statement.ofLines (SourceLine.ofSource respelled)).value).commit
          (.new .off) = (.ok second, j) ∧
        first.symbols = second.symbols ∧ first.code = second.code := by
  have calm : ∀ e ∈ (Statement.ofLines (SourceLine.ofSource tabbed)).events.toList,
      e.isFatal = false := by decide +kernel
  have calmly : ∀ e ∈ (Statement.ofLines (SourceLine.ofSource respelled)).events.toList,
      e.isFatal = false := by decide +kernel
  have value : (Statement.ofLines (SourceLine.ofSource tabbed)).value =
      [⟨1, some ['A'], "B:\tHAB".toList⟩, ⟨2, none, ".CODE".toList⟩,
        ⟨3, none, ".CONSTANT É = 5".toList⟩] := by decide +kernel
  obtain ⟨k, ok⟩ := Traced.commit_of_calm (j := .new .off) rfl calm
  obtain ⟨l, read⟩ := Traced.commit_of_calm (j := .new .off) rfl calmly
  obtain ⟨m, laid⟩ := Traced.commit_of_calm (j := .new .off) rfl (Layout.calm_ofStatements _)
  obtain ⟨n, relaid⟩ := Traced.commit_of_calm (j := .new .off) rfl (Layout.calm_ofStatements _)
  obtain ⟨back, same⟩ := listings_lossless ok
  refine ⟨_, k, ok, ?_, _, _, m, n, laid, relaid, (same read laid relaid).mp (by decide +kernel)⟩
  rw [back, value]
  rfl

end Listing

end Anem
