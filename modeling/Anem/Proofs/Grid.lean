import Anem.Grid
import Anem.Proofs.Assembly.Expansion
import Anem.Proofs.Image.LastWrite
import Anem.Proofs.Listing.Binary
import Anem.Proofs.Lists

namespace Anem

theorem Image.at?_eq_some {image : Image} (sorted : image.Sorted) {a : Address} {w : Placed} :
    image.at? a = some w ↔ w ∈ image ∧ w.address = a := by
  constructor
  · intro found
    exact ⟨List.mem_of_find?_eq_some found, by simpa using List.find?_some found⟩
  · rintro ⟨given, rfl⟩
    cases found : image.at? w.address with
    | none =>
      have other := List.find?_eq_none.mp found w given
      simp at other
    | some v =>
      have same : v.address = w.address := by simpa using List.find?_some found
      rw [List.inj_on_of_nodup_map sorted.nodup (List.mem_of_find?_eq_some found) given same]

theorem Word.binary_injective : Function.Injective Word.binary := by
  intro v w same
  have value := congrArg Listing.binaryValue same
  rw [binary, binary, Listing.binaryValue_fixedDigits, Listing.binaryValue_fixedDigits,
    Nat.mod_eq_of_lt v.isLt, Nat.mod_eq_of_lt w.isLt] at value
  exact BitVec.eq_of_toNat_eq value

theorem Word.binary_ne_dash (w : Word) : w.binary ≠ ['-'] := by
  intro dash
  have length := congrArg List.length dash
  rw [binary, Text.length_fixedDigits] at length
  cases length

/-- An item has this word, and no item behind it has one at its address. -/
def Image.Lasts (symbols : SymbolTable) (item : Item) (later : List Item) (bits : Word) : Prop :=
  item.encode symbols = .ok bits ∧ ∀ other ∈ later, ¬ Writes symbols other item.address

/-- Where an item is known by its address and its line, so is its word. -/
theorem Image.mem_ofLayout_of_nodup {layout : Layout}
    (nodup : (layout.code.map fun item => (item.address, item.origin)).Nodup)
    {earlier later : List Item} {item : Item} (split : layout.code = earlier ++ item :: later)
    {bits : Word} :
    ⟨item.address, item.origin, bits⟩ ∈ (ofLayout layout).value ↔
      Lasts layout.symbols item later bits := by
  rw [mem_ofLayout_iff]
  constructor
  · rintro ⟨before, source, after, found, address, origin, outcome, last⟩
    obtain ⟨-, rfl, rfl⟩ := split_unique nodup found split (Prod.ext address origin)
    exact ⟨outcome, last⟩
  · rintro ⟨outcome, last⟩
    exact ⟨earlier, item, later, split, rfl, rfl, outcome, last⟩

namespace Grid

def widest (cells : List Text) : Nat :=
  (cells.map Text.width).foldl max 0

/-- The cell of an item and the blanks up to the next column, which is one blank
behind the widest cell. -/
def padded (items : List Item) (cell : Item → Text) (item : Item) : Text :=
  cell item ++ List.replicate (widest (items.map cell) - Text.width (cell item) + 1) ' '

section Columns

variable {α : Type}

theorem widen_map (columns : List α) (f g : α → Nat) :
    columnWidths.widen (columns.map f) (columns.map g) =
      columns.map fun column => max (f column) (g column) := by
  induction columns with
  | nil => rfl
  | cons column columns ih => rw [List.map_cons, List.map_cons, columnWidths.widen, ih, List.map_cons]

variable (cells : List (α → Text))

/-- The run lemma: each column grows to its widest cell. -/
theorem foldl_widen (items : List α) (f : (α → Text) → Nat) :
    (items.map fun item => cells.map (· item)).foldl
        (fun widths row => columnWidths.widen widths (row.map Text.width)) (cells.map f) =
      cells.map fun cell => ((items.map cell).map Text.width).foldl max (f cell) := by
  induction items generalizing f with
  | nil => rfl
  | cons item items ih =>
    have step : columnWidths.widen (cells.map f) ((cells.map (· item)).map Text.width) =
        cells.map fun cell => max (f cell) (Text.width (cell item)) := by
      rw [List.map_map]
      exact widen_map cells f _
    rw [List.map_cons, List.foldl_cons, step, ih]
    rfl

/-- All rows of a grid together have the width of their widest cell. -/
theorem columnWidths_map {items : List α} (present : items ≠ []) :
    columnWidths (items.map fun item => cells.map (· item)) =
      cells.map fun cell => widest (items.map cell) := by
  obtain ⟨item, items, rfl⟩ := List.exists_cons_of_ne_nil present
  have start : columnWidths.widen [] ((cells.map (· item)).map Text.width) =
      cells.map fun cell => max 0 (Text.width (cell item)) := by
    rw [List.map_map, columnWidths.widen]
    simp
  rw [columnWidths, List.map_cons, List.foldl_cons, start, foldl_widen]
  rfl

end Columns

theorem printRow_cons (w : Nat) (ws : List Nat) (cell next : Text) (cells : Row) :
    printRow (w :: ws) (cell :: next :: cells) =
      cell ++ List.replicate (w - Text.width cell + 1) ' ' ++ printRow ws (next :: cells) := by
  rw [printRow, List.replicate_succ', ← List.append_assoc, List.append_assoc _ [' ']]
  · rfl
  · exact List.cons_ne_nil next cells

/-- The row of an item by its six cells. -/
def line (items : List Item) (image : Image) (item : Item) : Text :=
  padded items (fun i => Address.hex i.address ++ [':']) item ++
    (padded items (fun i => Text.decimal i.origin) item ++
    (padded items (fun i => formatName i.text) item ++
    (padded items Item.text item ++
    (padded items (fun _ => "=>".toList) item ++ ownWord image item))))

def columns (image : Image) : List (Item → Text) :=
  [fun i => Address.hex i.address ++ [':'], fun i => Text.decimal i.origin,
    fun i => formatName i.text, Item.text, fun _ => "=>".toList, ownWord image]

theorem row_eq (image : Image) (item : Item) : row image item = (columns image).map (· item) := rfl

theorem print_ofImage (layout : Layout) (image : Image) :
    print (ofImage layout image) =
      Text.unlines (layout.code.map (line layout.code image)) := by
  by_cases present : layout.code = []
  · rw [ofImage, present]
    rfl
  · have rows : ofImage layout image = layout.code.map fun item => (columns image).map (· item) := by
      rw [ofImage, funext (row_eq image)]
    have widths := columnWidths_map (columns image) present
    rw [print, rows, widths, Text.unlines, List.flatMap_map, List.flatMap_map]
    congr 1
    funext item
    simp only [columns, line, padded, List.map_cons, List.map_nil, printRow_cons, List.append_assoc]
    rfl

section OwnWord

variable {image : Image} (sorted : image.Sorted) (item : Item)

include sorted

/-- A row shows the word that has the address and the line of its item. -/
theorem ownWord_cases :
    (∃ bits, ⟨item.address, item.origin, bits⟩ ∈ image ∧
      ownWord image item = Word.binary bits) ∨
    (∀ bits, ⟨item.address, item.origin, bits⟩ ∉ image) ∧ ownWord image item = ['-'] := by
  rw [ownWord]
  cases found : image.at? item.address with
  | none =>
    right
    refine ⟨?_, rfl⟩
    intro bits given
    rw [(Image.at?_eq_some sorted).mpr ⟨given, rfl⟩] at found
    cases found
  | some word =>
    obtain ⟨given, address⟩ := (Image.at?_eq_some sorted).mp found
    by_cases origin : word.origin = item.origin
    · left
      refine ⟨word.bits, ?_, if_pos origin⟩
      rw [← address, ← origin]
      exact given
    · right
      refine ⟨?_, if_neg origin⟩
      intro bits other
      rw [(Image.at?_eq_some sorted).mpr ⟨other, rfl⟩, Option.some.injEq] at found
      rw [← found] at origin
      exact origin rfl

theorem ownWord_eq_binary {bits : Word} :
    ownWord image item = Word.binary bits ↔ ⟨item.address, item.origin, bits⟩ ∈ image := by
  rcases ownWord_cases sorted item with ⟨own, given, shown⟩ | ⟨none, shown⟩
  · rw [shown, Word.binary_injective.eq_iff]
    constructor
    · rintro rfl
      exact given
    · intro other
      exact congrArg Placed.bits (List.inj_on_of_nodup_map sorted.nodup given other rfl)
  · rw [shown]
    exact iff_of_false bits.binary_ne_dash.symm (none bits)

theorem ownWord_eq_dash :
    ownWord image item = ['-'] ↔ ∀ bits, ⟨item.address, item.origin, bits⟩ ∉ image := by
  rcases ownWord_cases sorted item with ⟨own, given, shown⟩ | ⟨none, shown⟩
  · rw [shown]
    exact iff_of_false own.binary_ne_dash fun none => none own given
  · exact iff_of_true shown none

end OwnWord

end Grid

namespace Layout

theorem length_landing_le (n : Nat) (s : Statement) : (landing n s).length ≤ 1 := by
  rw [landing]
  split
  · exact Nat.le_refl 1
  · exact Nat.zero_le 1

/-- Items are told apart by address and line if those of one line are by their
addresses. -/
theorem nodup_places {layout : Layout}
    (each : ∀ n, ((layout.codeOf n).map (·.address)).Nodup) :
    (layout.code.map fun item => (item.address, item.origin)).Nodup := by
  rw [List.Nodup, List.pairwise_map, List.pairwise_iff_forall_sublist]
  intro x y sub same
  obtain ⟨address, origin⟩ := Prod.mk.inj same
  have own := sub.filter fun item => decide (item.origin = x.origin)
  have both : [x, y].filter (fun item => decide (item.origin = x.origin)) = [x, y] := by
    simp [origin]
  rw [both] at own
  have apart := each x.origin
  rw [List.Nodup, List.pairwise_map, List.pairwise_iff_forall_sublist] at apart
  exact apart own address

end Layout

namespace Statement

/-- Only a pseudo-instruction gives more than one statement. -/
theorem Reading.length_le_one {line : SourceLine} {t : Traced (List Statement)}
    (reading : Reading line t) (named : Pseudo.Kind.ofName? line.mnemonic = none) :
    t.value.length ≤ 1 := by
  cases reading with
  | blank | crowded | missing => exact Nat.zero_le 1
  | nothing | plain => exact Nat.le_refl 1
  | expanded other | refused other =>
    rw [named] at other
    cases other

end Statement

namespace Assembly

section Line

variable {source : Text} {before after : List SourceLine} {line : SourceLine}
  (split : SourceLine.ofSource source = before ++ line :: after)

include split

theorem length_codeOf_le_one (named : Pseudo.Kind.ofName? line.mnemonic = none) :
    ((trace source).value.layout.codeOf line.number).length ≤ 1 := by
  obtain ⟨earlier, later⟩ := origin_ne_of_split split
  have spots : ((trace source).value.layout.codeOf line.number).map Layout.spot =
      gather (fun front => Layout.placement ((Statement.ofLines before).value ++ front))
        (Statement.ofLine line).value := by
    change ((Layout.ofStatements (trace source).value.statements).value.codeOf _).map _ = _
    rw [statements_split split]
    exact Layout.codeOf_ofStatements earlier (Statement.reading_ofLine line).origin later
  rw [← List.length_map Layout.spot, spots]
  calc
    _ ≤ (Statement.ofLine line).value.length :=
      length_gather_le (fun _ s => Layout.length_landing_le _ s) _
    _ ≤ 1 := (Statement.reading_ofLine line).length_le_one named

/-- The instructions of an expansion lie one behind the other. -/
theorem nodup_codeOf_pseudo {kind : Pseudo.Kind}
    (named : Pseudo.Kind.ofName? line.mnemonic = some kind) :
    (((trace source).value.layout.codeOf line.number).map (·.address)).Nodup := by
  have places := congrArg (List.map Prod.snd) (codeOf_pseudo split named)
  rw [List.map_map, List.zipIdx_map_snd] at places
  apply List.Nodup.of_map BitVec.toNat
  rw [List.map_map]
  exact places ▸ List.nodup_range'

end Line

theorem nodup_codeOf (source : Text) (n : Nat) :
    (((trace source).value.layout.codeOf n).map (·.address)).Nodup := by
  by_cases given : ∃ line ∈ SourceLine.ofSource source, line.number = n
  · obtain ⟨line, given, rfl⟩ := given
    obtain ⟨before, after, split⟩ := List.append_of_mem given
    cases named : Pseudo.Kind.ofName? line.mnemonic with
    | some kind => exact nodup_codeOf_pseudo split named
    | none =>
      have few := length_codeOf_le_one split named
      rcases Nat.le_one_iff_eq_zero_or_eq_one.mp few with none | one
      · rw [List.length_eq_zero_iff.mp none]
        exact List.nodup_nil
      · obtain ⟨item, only⟩ := List.length_eq_one_iff.mp one
        rw [only]
        exact List.nodup_singleton _
  · have none : (trace source).value.layout.codeOf n = [] := by
      rw [Layout.codeOf, List.filter_eq_nil_iff]
      intro item placed origin
      obtain ⟨line, read, number, -⟩ := line_of_item placed
      exact given ⟨line, read, number.symm.trans (of_decide_eq_true origin)⟩
    rw [none]
    exact List.nodup_nil

/-- **The grid shows each instruction with its own word.** In a run that goes
through no two items have the same address and the same line. The grid has a
line for each item, in the order of the code: its address, source line, format
and text, an arrow and a word, each but the last one filled up with blanks to the
widest cell of its column. The word is that of the item's own encoding exactly if
the item has one and no later item at its address does, and a dash otherwise. -/
theorem grid_attributes_words {source : Text} {j k : Journal} {a : Assembly}
    (ok : assemble source j = (.ok a, k)) :
    (a.layout.code.map fun item => (item.address, item.origin)).Nodup ∧
    Grid.print (Grid.ofImage a.layout a.image) =
      Text.unlines (a.layout.code.map (Grid.line a.layout.code a.image)) ∧
    ∀ earlier item later, a.layout.code = earlier ++ item :: later →
      (∀ bits, Grid.ownWord a.image item = Word.binary bits ↔
        Image.Lasts a.layout.symbols item later bits) ∧
      (Grid.ownWord a.image item = ['-'] ↔
        ∀ bits, ¬ Image.Lasts a.layout.symbols item later bits) := by
  obtain ⟨rfl, -⟩ := assemble_eq_ok.mp ok
  have nodup := Layout.nodup_places (nodup_codeOf source)
  have sorted : (trace source).value.image.Sorted := by
    change (Image.ofLayout (trace source).value.layout).value.Sorted
    rw [Image.value_ofLayout]
    exact Image.sorted_ofWords _
  refine ⟨nodup, Grid.print_ofImage _ _, ?_⟩
  intro earlier item later split
  have own (bits : Word) : ⟨item.address, item.origin, bits⟩ ∈ (trace source).value.image ↔
      Image.Lasts (trace source).value.layout.symbols item later bits :=
    Image.mem_ofLayout_of_nodup nodup split
  constructor
  · intro bits
    rw [Grid.ownWord_eq_binary sorted, own]
  · rw [Grid.ownWord_eq_dash sorted]
    exact forall_congr' fun bits => not_congr (own bits)

/-- The second of the three instructions of a line is written over twice, by one
that has a word and one that has none. -/
def rewound : Text := "LIW $1, 300\n.ADDRESS 1\nHAB\n.ADDRESS 1\nFOO\n".toList

theorem grid_attributes_words_rewound :
    ∃ a k, assemble rewound (.new .off) = (.ok a, k) ∧
      (a.layout.code.map fun item => (item.address, item.origin)).Nodup ∧
      Grid.ownWord a.image ⟨1, 1, "LIL $1, 44".toList⟩ = ['-'] ∧
      Grid.ownWord a.image ⟨1, 3, "HAB".toList⟩ = Word.binary 0xF000 := by
  have calm : ∀ e ∈ (trace rewound).events.toList, e.isFatal = false := by decide +kernel
  obtain ⟨k, ok⟩ := assemble_of_calm (j := .new .off) rfl calm
  obtain ⟨apart, -, shown⟩ := grid_attributes_words ok
  have word : (⟨1, 3, "HAB".toList⟩ : Item).encode (trace rewound).value.layout.symbols =
      .ok 0xF000 := by decide +kernel
  refine ⟨_, k, ok, apart, ?_, ?_⟩
  · apply (shown [⟨0, 1, "LIU $1, 1".toList⟩] _ [⟨2, 1, "ADD $0, $0".toList⟩,
      ⟨1, 3, "HAB".toList⟩, ⟨1, 5, "FOO".toList⟩] (by decide +kernel)).2.mpr
    rintro bits ⟨-, last⟩
    exact last ⟨1, 3, "HAB".toList⟩ (by decide) ⟨rfl, _, word⟩
  · apply ((shown [⟨0, 1, "LIU $1, 1".toList⟩, ⟨1, 1, "LIL $1, 44".toList⟩,
      ⟨2, 1, "ADD $0, $0".toList⟩] _ [⟨1, 5, "FOO".toList⟩] (by decide +kernel)).1 _).mpr
    refine ⟨word, ?_⟩
    have without : (⟨1, 5, "FOO".toList⟩ : Item).encode (trace rewound).value.layout.symbols =
        .error (.malformed "FOO".toList) := by decide +kernel
    rintro other placed ⟨-, bits, written⟩
    rw [List.mem_singleton.mp placed, without] at written
    cases written

end Assembly

end Anem
