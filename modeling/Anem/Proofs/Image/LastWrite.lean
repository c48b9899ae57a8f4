import Anem.Proofs.Image

namespace Anem

namespace Image

theorem mem_insertIfNew_iff {word v : Placed} {image : Image} (h : image.Sorted) :
    v ∈ insertIfNew word image ↔
      v ∈ image ∨ v = word ∧ word.address ∉ image.map (·.address) := by
  induction image with
  | nil => simp [insertIfNew]
  | cons w ws ih =>
    obtain ⟨first, rest⟩ := List.pairwise_cons.mp h
    unfold insertIfNew
    split
    · rename_i less
      -- The word is before all others, so its address is free.
      have free : word.address ∉ (w :: ws).map (·.address) := by
        intro taken
        obtain ⟨u, hu, same⟩ := List.mem_map.mp taken
        rcases List.mem_cons.mp hu with rfl | hu
        · rw [same] at less
          exact BitVec.lt_irrefl _ less
        · have beyond := BitVec.lt_trans less (first u hu)
          rw [same] at beyond
          exact BitVec.lt_irrefl _ beyond
      rw [List.mem_cons]
      constructor
      · rintro (rfl | hv)
        · exact Or.inr ⟨rfl, free⟩
        · exact Or.inl hv
      · rintro (hv | ⟨rfl, -⟩)
        · exact Or.inr hv
        · exact Or.inl rfl
    · split
      · rename_i same
        simp [same]
      · rename_i other
        rw [List.mem_cons, List.mem_cons, ih rest, List.map_cons, List.mem_cons, not_or, or_assoc]
        simp [other]

/-- The words of an image are those that no later one at their address follows. -/
theorem mem_ofWords_iff {words : List Placed} {w : Placed} :
    w ∈ ofWords words ↔
      ∃ before after, words = before ++ w :: after ∧ ∀ v ∈ after, v.address ≠ w.address := by
  -- The image is built from the back, so a word stays out if a later one is in.
  induction words with
  | nil => simp [ofWords]
  | cons u words ih =>
    have step : w ∈ ofWords (u :: words) ↔
        w ∈ ofWords words ∨ w = u ∧ u.address ∉ (ofWords words).map (·.address) :=
      mem_insertIfNew_iff (sorted_ofWords words)
    rw [step, ih, address_mem_ofWords]
    constructor
    · rintro (⟨before, after, rfl, last⟩ | ⟨rfl, free⟩)
      · exact ⟨u :: before, after, rfl, last⟩
      · refine ⟨[], words, rfl, ?_⟩
        intro v hv same
        exact free (List.mem_map.mpr ⟨v, hv, same⟩)
    · rintro ⟨before, after, split, last⟩
      cases before with
      | nil =>
        obtain ⟨rfl, rfl⟩ := List.cons.inj split
        refine Or.inr ⟨rfl, ?_⟩
        intro taken
        obtain ⟨v, hv, same⟩ := List.mem_map.mp taken
        exact last v hv same
      | cons b before =>
        obtain ⟨rfl, rest⟩ := List.cons.inj split
        exact Or.inl ⟨before, after, rest, last⟩

/-- An item at an address has a word there. -/
def Writes (symbols : SymbolTable) (item : Item) (a : Address) : Prop :=
  item.address = a ∧ ∃ bits, item.encode symbols = .ok bits

theorem mem_address_words {layout : Layout} {a : Address} :
    a ∈ (words layout).map (·.address) ↔ ∃ item ∈ layout.code, Writes layout.symbols item a := by
  simp only [words, List.mem_map, List.mem_filterMap, word?_eq_some]
  constructor
  · rintro ⟨w, ⟨item, placed, same, -, outcome⟩, rfl⟩
    exact ⟨item, placed, same, w.bits, outcome⟩
  · rintro ⟨item, placed, rfl, bits, outcome⟩
    exact ⟨⟨item.address, item.origin, bits⟩, ⟨item, placed, rfl, rfl, outcome⟩, rfl⟩

/-- The word at an address is that of the last item which has one there. -/
theorem mem_ofLayout_iff {layout : Layout} {w : Placed} :
    w ∈ (ofLayout layout).value ↔
      ∃ earlier item later, layout.code = earlier ++ item :: later ∧
        item.address = w.address ∧ item.origin = w.origin ∧
        item.encode layout.symbols = .ok w.bits ∧
        ∀ other ∈ later, ¬ Writes layout.symbols other w.address := by
  rw [value_ofLayout, mem_ofWords_iff, words]
  constructor
  · rintro ⟨before, after, split, last⟩
    obtain ⟨front, back, code, -, rest⟩ := List.filterMap_eq_append_iff.mp split
    obtain ⟨skipped, item, later, found, -, own, tail⟩ := List.filterMap_eq_cons_iff.mp rest
    obtain ⟨address, origin, outcome⟩ := word?_eq_some.mp own
    refine ⟨front ++ skipped, item, later, ?_, address, origin, outcome, ?_⟩
    · rw [code, found, List.append_assoc]
    · rintro other placed ⟨same, bits, written⟩
      have follows : (⟨other.address, other.origin, bits⟩ : Placed) ∈ after := by
        rw [← tail]
        exact List.mem_filterMap.mpr ⟨other, placed, word?_eq_some.mpr ⟨rfl, rfl, written⟩⟩
      exact last _ follows same
  · rintro ⟨earlier, item, later, code, address, origin, outcome, last⟩
    have own : word? (item, item.encode layout.symbols) = some w :=
      word?_eq_some.mpr ⟨address, origin, outcome⟩
    have split := congrArg (List.filterMap fun item => word? (item, item.encode layout.symbols)) code
    rw [List.filterMap_append, List.filterMap_cons, own] at split
    refine ⟨_, _, split, ?_⟩
    intro v hv same
    obtain ⟨other, placed, written⟩ := List.mem_filterMap.mp hv
    obtain ⟨here, -, bits⟩ := word?_eq_some.mp written
    exact last other placed ⟨here.trans same, v.bits, bits⟩

theorem length_faults (symbols : SymbolTable) (code : List Item) :
    (code.filterMap (Item.fault? symbols)).length =
      code.countP fun item => !(item.encode symbols).isOk := by
  rw [List.length_filterMap_eq_countP]
  congr
  funext item
  rw [Item.fault?]
  cases item.encode symbols with
  | ok bits => rfl
  | error cause => rfl

/-- **The last write wins.** The words of a pass that goes through are in
strictly ascending order of their addresses. An address has a word exactly if
an item at this address has one, and it is that of the last such item, with its
line. The errors are the items without a word. -/
theorem last_write_wins {layout : Layout} {j k : Journal} {image : Image}
    (ok : (ofLayout layout).commit j = (.ok image, k)) :
    image.Pairwise (fun v w => v.address < w.address) ∧
    (∀ a, a ∈ image.map (·.address) ↔
      ∃ item ∈ layout.code, item.address = a ∧ ∃ bits, item.encode layout.symbols = .ok bits) ∧
    (∀ w, w ∈ image ↔
      ∃ earlier item later, layout.code = earlier ++ item :: later ∧
        item.address = w.address ∧ item.origin = w.origin ∧
        item.encode layout.symbols = .ok w.bits ∧
        ∀ other ∈ later, other.address = w.address →
          ∀ bits, other.encode layout.symbols ≠ .ok bits) ∧
    k.errors = j.errors + layout.code.countP fun item => !(item.encode layout.symbols).isOk := by
  obtain ⟨rfl, absorbed⟩ := Traced.commit_eq_ok.mp ok
  have grown := Journal.grown_of_absorb absorbed
  refine ⟨?_, ?_, ?_, ?_⟩
  · rw [value_ofLayout]
    exact sorted_ofWords (words layout)
  · intro a
    rw [value_ofLayout, address_mem_ofWords, mem_address_words]
    rfl
  · intro w
    simp only [mem_ofLayout_iff, Writes, not_and, not_exists, ne_eq]
  · have calm : ∀ item ∈ layout.code,
        (item.event (item.encode layout.symbols)).isFatal = false := by
      intro item placed
      apply grown.calm
      rw [events_ofLayout]
      exact List.mem_map.mpr ⟨item, placed, rfl⟩
    rw [grown.errors, events_ofLayout, Item.errors_event calm, length_faults]

/-- Three instructions for one address, the last of which has no word. -/
def contested : Layout :=
  ⟨.empty, [⟨5, 1, "HAB".toList⟩, ⟨0, 2, "ADD $1, $2".toList⟩, ⟨0, 3, "HAB".toList⟩,
    ⟨0, 4, "FOO".toList⟩]⟩

theorem last_write_wins_contested :
    ∃ image k, (ofLayout contested).commit (.new .off) = (.ok image, k) ∧
      image.Pairwise (fun v w => v.address < w.address) ∧
      ⟨0, 3, 0xF000⟩ ∈ image ∧ k.errors = 1 := by
  have calm : ∀ e ∈ (ofLayout contested).events.toList, e.isFatal = false := by decide +kernel
  obtain ⟨k, ok⟩ := Traced.commit_of_calm (j := .new .off) rfl calm
  obtain ⟨ascending, -, words, errors⟩ := last_write_wins ok
  refine ⟨_, k, ok, ascending, (words _).mpr ?_, ?_⟩
  · refine ⟨contested.code.take 2, ⟨0, 3, "HAB".toList⟩, contested.code.drop 3, rfl, rfl, rfl, ?_, ?_⟩
    · decide +kernel
    · have without : ∀ other ∈ contested.code.drop 3,
          (other.encode contested.symbols).isOk = false := by decide +kernel
      intro other placed _ bits written
      have own := without other placed
      rw [written] at own
      cases own
  · rw [errors]
    decide +kernel

end Image

end Anem
