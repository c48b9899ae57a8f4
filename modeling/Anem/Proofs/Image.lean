import Mathlib.Data.List.Basic
import Anem.Image
import Anem.Proofs.Journal

namespace Anem

namespace Item

/-- The word of an item, zero if it has none. -/
def bits (symbols : SymbolTable) (item : Item) : Word :=
  (item.encode symbols).toOption.getD (BitVec.ofNat 16 0)

theorem bits_of_ok {symbols : SymbolTable} {item : Item} {w : Word}
    (h : item.encode symbols = .ok w) : item.bits symbols = w := by
  rw [bits, h]
  rfl

def fault? (symbols : SymbolTable) (item : Item) : Option (Nat × Fault) :=
  match item.encode symbols with
  | .ok _ => none
  | .error cause => some (item.origin, cause)

theorem isFatal_event {item : Item} {cause : Fault} :
    (item.event (.error cause)).isFatal = cause.isFatal := by
  rw [event]
  cases h : cause.isFatal with
  | true => rfl
  | false => rfl

/-- The errors of items of which none ends the run are their faults. -/
theorem errors_event {symbols : SymbolTable} {code : List Item}
    (calm : ∀ item ∈ code, (item.event (item.encode symbols)).isFatal = false) :
    (code.map fun item => item.event (item.encode symbols)).filterMap Event.error? =
      code.filterMap (fault? symbols) := by
  rw [List.filterMap_map]
  apply List.filterMap_congr
  intro item placed
  have own := calm item placed
  rw [Function.comp_apply, fault?]
  cases outcome : item.encode symbols with
  | ok bits => rfl
  | error cause =>
    rw [outcome, isFatal_event] at own
    simp [event, own, Event.error?]

end Item

namespace Image

/-- Words in strictly ascending order of their addresses. -/
def Sorted (image : Image) : Prop :=
  image.Pairwise fun v w => v.address < w.address

theorem mem_insertIfNew {word v : Placed} {image : Image} (h : v ∈ insertIfNew word image) :
    v = word ∨ v ∈ image := by
  induction image with
  | nil => exact Or.inl (List.mem_singleton.mp h)
  | cons w ws ih =>
    unfold insertIfNew at h
    split at h
    · exact List.mem_cons.mp h
    · split at h
      · exact Or.inr h
      · rcases List.mem_cons.mp h with rfl | h
        · exact Or.inr List.mem_cons_self
        · exact (ih h).imp_right (List.mem_cons_of_mem w)

theorem address_mem_insertIfNew {word : Placed} {image : Image} {a : Address} :
    a ∈ (insertIfNew word image).map (·.address) ↔
      a = word.address ∨ a ∈ image.map (·.address) := by
  induction image with
  | nil => simp [insertIfNew]
  | cons w ws ih =>
    unfold insertIfNew
    split
    · simp
    · split
      · rename_i same
        simp [same]
      · simp only [List.map_cons, List.mem_cons, ih]
        exact or_left_comm

theorem Sorted.insertIfNew {image : Image} (h : image.Sorted) (word : Placed) :
    (insertIfNew word image).Sorted := by
  induction image with
  | nil => exact List.pairwise_singleton _ _
  | cons w ws ih =>
    obtain ⟨first, rest⟩ := List.pairwise_cons.mp h
    unfold Image.insertIfNew
    split
    · rename_i less
      refine List.pairwise_cons.mpr ⟨?_, h⟩
      intro v hv
      rcases List.mem_cons.mp hv with rfl | hv
      · exact less
      · exact BitVec.lt_trans less (first v hv)
    · split
      · exact h
      · rename_i notLess notSame
        refine List.pairwise_cons.mpr ⟨?_, ih rest⟩
        intro v hv
        rcases mem_insertIfNew hv with rfl | hv
        · simp only [BitVec.lt_def, ← BitVec.toNat_inj] at notLess notSame ⊢
          omega
        · exact first v hv

/-- A word before all others goes to the front. -/
theorem insertIfNew_of_first {word : Placed} {image : Image}
    (first : ∀ w ∈ image, word.address < w.address) :
    insertIfNew word image = word :: image := by
  cases image with
  | nil => rfl
  | cons w ws => rw [insertIfNew, if_pos (first w List.mem_cons_self)]

/-- The words of a list, the last one at each address. -/
def ofWords (words : List Placed) : Image :=
  words.foldr insertIfNew []

theorem mem_of_mem_ofWords {words : List Placed} {w : Placed} (h : w ∈ ofWords words) :
    w ∈ words := by
  induction words with
  | nil => exact h
  | cons v words ih =>
    rcases mem_insertIfNew h with rfl | h
    · exact List.mem_cons_self
    · exact List.mem_cons_of_mem v (ih h)

theorem address_mem_ofWords {words : List Placed} {a : Address} :
    a ∈ (ofWords words).map (·.address) ↔ a ∈ words.map (·.address) := by
  induction words with
  | nil => rfl
  | cons v words ih =>
    rw [ofWords, List.foldr_cons, address_mem_insertIfNew, List.map_cons, List.mem_cons]
    exact or_congr_right ih

theorem sorted_ofWords (words : List Placed) : (ofWords words).Sorted := by
  induction words with
  | nil => exact List.Pairwise.nil
  | cons v words ih => exact ih.insertIfNew v

theorem ofWords_of_sorted {words : List Placed} (h : Sorted words) : ofWords words = words := by
  induction words with
  | nil => rfl
  | cons v words ih =>
    obtain ⟨first, rest⟩ := List.pairwise_cons.mp h
    have tail : words.foldr insertIfNew [] = words := ih rest
    rw [ofWords, List.foldr_cons, tail, insertIfNew_of_first first]

def word? (outcome : Item × Except Fault Word) : Option Placed :=
  match outcome.2 with
  | .ok bits => some ⟨outcome.1.address, outcome.1.origin, bits⟩
  | .error _ => none

theorem word?_eq_some {item : Item} {outcome : Except Fault Word} {w : Placed} :
    word? (item, outcome) = some w ↔
      item.address = w.address ∧ item.origin = w.origin ∧ outcome = .ok w.bits := by
  cases outcome with
  | ok bits =>
    obtain ⟨address, origin, own⟩ := w
    simp [word?]
  | error cause => simp [word?]

theorem ofOutcomes_eq (outcomes : List (Item × Except Fault Word)) :
    ofOutcomes outcomes = ofWords (outcomes.filterMap word?) := by
  induction outcomes with
  | nil => rfl
  | cons o outcomes ih =>
    obtain ⟨item, outcome⟩ := o
    cases outcome with
    | ok bits => exact congrArg (insertIfNew ⟨item.address, item.origin, bits⟩) ih
    | error cause => exact ih

theorem Sorted.nodup {image : Image} (h : image.Sorted) : (image.map (·.address)).Nodup := by
  rw [List.Nodup, List.pairwise_map]
  apply h.imp
  intro v w less same
  rw [same] at less
  exact BitVec.lt_irrefl _ less

def words (layout : Layout) : List Placed :=
  layout.code.filterMap fun item => word? (item, item.encode layout.symbols)

theorem value_ofLayout (layout : Layout) : (ofLayout layout).value = ofWords (words layout) := by
  simp only [ofLayout, ofOutcomes_eq, List.filterMap_map, words, Function.comp_def]

theorem events_ofLayout (layout : Layout) : (ofLayout layout).events.toList =
    layout.code.map fun item => item.event (item.encode layout.symbols) := by
  simp [ofLayout]

/-- Every word of an image is the word of an item, at its place and with its
line. -/
theorem encode_of_mem_ofLayout {layout : Layout} {w : Placed} (h : w ∈ (ofLayout layout).value) :
    ∃ item ∈ layout.code, item.address = w.address ∧ item.origin = w.origin ∧
      item.encode layout.symbols = .ok w.bits := by
  rw [value_ofLayout] at h
  obtain ⟨item, placed, found⟩ := List.mem_filterMap.mp (mem_of_mem_ofWords h)
  exact ⟨item, placed, word?_eq_some.mp found⟩

/-- An item has a word unless it is an error or ends the run. -/
theorem encode_of_event {item : Item} {outcome : Except Fault Word}
    (noError : (item.event outcome).error? = none) (calm : (item.event outcome).isFatal = false) :
    ∃ bits, outcome = .ok bits := by
  cases outcome with
  | ok bits => exact ⟨bits, rfl⟩
  | error cause =>
    rw [Item.event] at noError calm
    by_cases fatal : cause.isFatal = true
    · rw [if_pos fatal] at calm
      cases calm
    · rw [if_neg fatal] at noError
      cases noError

/-- Without an error every item has its word. -/
theorem encode_of_calm {layout : Layout}
    (noErrors : (ofLayout layout).events.toList.filterMap Event.error? = [])
    (calm : ∀ e ∈ (ofLayout layout).events.toList, e.isFatal = false) :
    ∀ item ∈ layout.code, ∃ bits, item.encode layout.symbols = .ok bits := by
  intro item placed
  have reported : item.event (item.encode layout.symbols) ∈ (ofLayout layout).events.toList := by
    rw [events_ofLayout]
    exact List.mem_map.mpr ⟨item, placed, rfl⟩
  exact encode_of_event (List.filterMap_eq_nil_iff.mp noErrors _ reported) (calm _ reported)

/-- The words of a layout all of whose items have one. -/
theorem words_eq {layout : Layout}
    (encoded : ∀ item ∈ layout.code, ∃ bits, item.encode layout.symbols = .ok bits) :
    words layout = layout.code.map fun item =>
      ⟨item.address, item.origin, item.bits layout.symbols⟩ := by
  unfold words
  generalize layout.code = code at encoded
  induction code with
  | nil => rfl
  | cons item code ih =>
    obtain ⟨bits, outcome⟩ := encoded item List.mem_cons_self
    have first : word? (item, item.encode layout.symbols) =
        some ⟨item.address, item.origin, item.bits layout.symbols⟩ := by
      rw [word?, outcome, Item.bits_of_ok outcome]
    have rest := ih fun other placed => encoded other (List.mem_cons_of_mem item placed)
    rw [List.filterMap_cons, first, rest, List.map_cons]

theorem address_words {layout : Layout}
    (encoded : ∀ item ∈ layout.code, ∃ bits, item.encode layout.symbols = .ok bits) :
    (words layout).map (·.address) = layout.code.map (·.address) := by
  rw [words_eq encoded, List.map_map]
  rfl

/-- The addresses of an image are those of the code. -/
theorem address_mem_ofLayout {layout : Layout}
    (encoded : ∀ item ∈ layout.code, ∃ bits, item.encode layout.symbols = .ok bits)
    {a : Address} :
    a ∈ (ofLayout layout).value.map (·.address) ↔ a ∈ layout.code.map (·.address) := by
  rw [value_ofLayout, address_mem_ofWords, address_words encoded]

theorem nodup_ofLayout (layout : Layout) : ((ofLayout layout).value.map (·.address)).Nodup := by
  rw [value_ofLayout]
  exact (sorted_ofWords (words layout)).nodup

theorem quiet_of_encoded {layout : Layout}
    (encoded : ∀ item ∈ layout.code, ∃ bits, item.encode layout.symbols = .ok bits) :
    ∀ e ∈ (ofLayout layout).events.toList, e.error? = none ∧ e.isFatal = false := by
  intro e he
  rw [events_ofLayout] at he
  obtain ⟨item, placed, rfl⟩ := List.mem_map.mp he
  obtain ⟨bits, outcome⟩ := encoded item placed
  rw [outcome]
  exact ⟨rfl, rfl⟩

/-- Items in ascending order that all have a word make up the image. -/
theorem value_of_encoded {layout : Layout}
    (encoded : ∀ item ∈ layout.code, ∃ bits, item.encode layout.symbols = .ok bits)
    (ascending : (layout.code.map (·.address.toNat)).Pairwise (· < ·)) :
    (ofLayout layout).value = layout.code.map fun item =>
      ⟨item.address, item.origin, item.bits layout.symbols⟩ := by
  rw [value_ofLayout, words_eq encoded]
  apply ofWords_of_sorted
  rw [List.pairwise_map] at ascending
  rw [Sorted, List.pairwise_map]
  exact ascending

end Image

end Anem
