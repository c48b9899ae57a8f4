import Anem.Proofs.Image
import Anem.Proofs.Layout.ClosedForm

namespace Anem

/-- What a statement says, wherever it stands in the source. -/
def Statement.content (s : Statement) : Option Text × Text :=
  (s.label, s.text)

def Item.place (item : Item) : Address × Text :=
  (item.address, item.text)

def Placed.content (w : Placed) : Address × Word :=
  (w.address, w.bits)

theorem Statement.role_of_text {s t : Statement} (same : s.text = t.text) : s.role = t.role := by
  rw [role, role, same]

namespace Layout

/-- Two states that differ in the lines of the code at most. -/
structure Alike (p q : Progress) : Prop where
  counter : p.counter = q.counter
  occupied : p.occupied = q.occupied
  symbols : p.symbols = q.symbols
  code : p.code.toList.map Item.place = q.code.toList.map Item.place

section Step

variable {p q : Progress} (alike : Alike p q)

include alike

theorem Alike.enter (m n : Nat) (name : Text) (value : Int) (notes others : Array Event) :
    Alike (Layout.enter p m name value notes).value (Layout.enter q n name value others).value := by
  simp only [Layout.enter, alike.symbols]
  cases q.symbols.define name value with
  | ok symbols => exact ⟨alike.counter, alike.occupied, rfl, alike.code⟩
  | error cause => exact alike

theorem Alike.bindLabel (m n : Nat) (label : Option Text) :
    Alike (Layout.bindLabel p m label).value (Layout.bindLabel q n label).value := by
  cases label with
  | none => exact alike
  | some label =>
    -- A label is entered with the counter as its value.
    change Alike (Layout.enter p m label p.counter #[.debug _]).value
      (Layout.enter q n label q.counter #[.debug _]).value
    rw [alike.counter]
    exact alike.enter m n label q.counter _ _

theorem Alike.place (m n : Nat) (text : Text) :
    Alike (Layout.place p m text).value (Layout.place q n text).value := by
  by_cases room : q.counter < addressLimit
  · have other : p.counter < addressLimit := alike.counter ▸ room
    rw [value_place room, value_place other]
    refine ⟨?_, ?_, alike.symbols, ?_⟩
    · rw [alike.counter]
    · rw [alike.counter, alike.occupied]
    · rw [Array.toList_push, Array.toList_push, List.map_append, List.map_append, alike.code,
        alike.counter]
      rfl
  · have other : ¬ p.counter < addressLimit := alike.counter ▸ room
    rw [Layout.place, Layout.place, if_neg room, if_neg other]
    exact alike

theorem Alike.act {s t : Statement} (same : s.text = t.text) :
    Alike (Layout.act p s).value (Layout.act q t).value := by
  rw [Layout.act, Layout.act, Statement.role_of_text same, same]
  cases t.role with
  | none => exact alike
  | instruction => exact alike.place s.origin t.origin t.text
  | move address => exact ⟨rfl, alike.occupied, alike.symbols, alike.code⟩
  | define name value => exact alike.enter s.origin t.origin name value #[] #[]
  | reject cause => exact alike

/-- The step lemma: statements with the same content keep states alike. -/
theorem Alike.step {s t : Statement} (same : s.content = t.content) :
    Alike (Layout.step p s).value (Layout.step q t).value := by
  obtain ⟨label, text⟩ := Prod.mk.inj same
  rw [step_eq, step_eq, Traced.value_andThen, Traced.value_andThen, label]
  exact (alike.bindLabel s.origin t.origin t.label).act text

/-- The run lemma: so do whole programs. -/
theorem Alike.foldl {xs ys : List Statement}
    (same : xs.map Statement.content = ys.map Statement.content) :
    Alike (xs.foldl (fun p s => (Layout.step p s).value) p)
      (ys.foldl (fun p s => (Layout.step p s).value) q) := by
  induction xs generalizing ys p q with
  | nil =>
    rw [List.map_eq_nil_iff.mp same.symm]
    exact alike
  | cons s xs ih =>
    cases ys with
    | nil => cases same
    | cons t ys =>
      obtain ⟨first, rest⟩ := List.cons.inj same
      exact ih (alike.step first) rest

end Step

theorem alike_ofStatements {xs ys : List Statement}
    (same : xs.map Statement.content = ys.map Statement.content) :
    (ofStatements xs).value.symbols = (ofStatements ys).value.symbols ∧
    (ofStatements xs).value.code.map Item.place = (ofStatements ys).value.code.map Item.place := by
  have start : Alike .start .start := ⟨rfl, rfl, rfl, rfl⟩
  have alike := start.foldl same
  rw [← Traced.value_foldl, ← Traced.value_foldl] at alike
  exact ⟨alike.symbols, alike.code⟩

end Layout

/-- The cause of an event that ends the run. -/
def Event.cause? : Event → Option Fault
  | fatal _ cause => some cause
  | _ => none

/-- A journal that is not fatal stops for the first fatal event. -/
theorem Journal.cause_absorb {j : Journal} (clear : j.fatal = false) (es : List Event) :
    (j.absorb es).1.map (·.cause) = (es.filterMap Event.cause?).head? := by
  induction es generalizing j with
  | nil => rfl
  | cons e es ih =>
    cases e with
    | fatal line cause => rfl
    | error line cause =>
      rw [absorb, post, if_neg (by rw [clear]; exact Bool.false_ne_true)]
      exact ih clear
    | warning line message | info message | debug message => exact ih clear

namespace Image

/-- The words of a finished pass without their lines, or why it was aborted. -/
def outcome : Except Abort Image → Except Fault (List (Address × Word))
  | .ok image => .ok (image.map Placed.content)
  | .error abort => .error abort.cause

theorem content_insertIfNew {v w : Placed} (first : v.content = w.content) {i j : Image}
    (rest : i.map Placed.content = j.map Placed.content) :
    (insertIfNew v i).map Placed.content = (insertIfNew w j).map Placed.content := by
  induction i generalizing j with
  | nil =>
    rw [List.map_eq_nil_iff.mp rest.symm, insertIfNew, insertIfNew, List.map_singleton, first]
    rfl
  | cons x i ih =>
    cases j with
    | nil => cases rest
    | cons y j =>
      obtain ⟨head, tail⟩ := List.cons.inj rest
      have address : x.address = y.address := congrArg Prod.fst head
      have own : v.address = w.address := congrArg Prod.fst first
      rw [insertIfNew, insertIfNew, address, own]
      by_cases less : w.address < y.address
      · rw [if_pos less, if_pos less]
        simp only [List.map_cons, first, head, tail]
      · rw [if_neg less, if_neg less]
        by_cases same : w.address = y.address
        · rw [if_pos same, if_pos same]
          exact rest
        · rw [if_neg same, if_neg same]
          simp only [List.map_cons, head, ih tail]

theorem content_ofWords {vs ws : List Placed}
    (same : vs.map Placed.content = ws.map Placed.content) :
    (ofWords vs).map Placed.content = (ofWords ws).map Placed.content := by
  induction vs generalizing ws with
  | nil => rw [List.map_eq_nil_iff.mp same.symm]
  | cons v vs ih =>
    cases ws with
    | nil => cases same
    | cons w ws =>
      obtain ⟨first, rest⟩ := List.cons.inj same
      exact content_insertIfNew first (ih rest)

def wordAt? (symbols : SymbolTable) (place : Address × Text) : Option (Address × Word) :=
  (Item.encode symbols ⟨place.1, 0, place.2⟩).toOption.map fun bits => (place.1, bits)

def causeAt? (symbols : SymbolTable) (place : Address × Text) : Option Fault :=
  match Item.encode symbols ⟨place.1, 0, place.2⟩ with
  | .ok _ => none
  | .error cause => if cause.isFatal then some cause else none

theorem encode_place (symbols : SymbolTable) (item : Item) :
    Item.encode symbols ⟨item.place.1, 0, item.place.2⟩ = item.encode symbols := rfl

theorem content_words (layout : Layout) :
    (words layout).map Placed.content =
      (layout.code.map Item.place).filterMap (wordAt? layout.symbols) := by
  rw [words, List.map_filterMap, List.filterMap_map]
  apply List.filterMap_congr
  intro item _
  rw [Function.comp_apply, wordAt?, encode_place]
  cases item.encode layout.symbols with
  | ok bits => rfl
  | error cause => rfl

theorem causes_ofLayout (layout : Layout) :
    (ofLayout layout).events.toList.filterMap Event.cause? =
      (layout.code.map Item.place).filterMap (causeAt? layout.symbols) := by
  rw [events_ofLayout, List.filterMap_map, List.filterMap_map]
  apply List.filterMap_congr
  intro item _
  rw [Function.comp_apply, Function.comp_apply, causeAt?, encode_place]
  cases item.encode layout.symbols with
  | ok bits => rfl
  | error cause =>
    simp only [Item.event]
    split
    · rfl
    · rfl

/-- The outcome of the pass in a new journal is decided by the places and the
symbols. -/
theorem outcome_commit (layout : Layout) (v : Verbosity) :
    outcome ((ofLayout layout).commit (.new v)).1 =
      match ((layout.code.map Item.place).filterMap (causeAt? layout.symbols)).head? with
      | some cause => .error cause
      | none => .ok ((ofWords (words layout)).map Placed.content) := by
  have first := Journal.cause_absorb (j := .new v) rfl (ofLayout layout).events.toList
  rw [causes_ofLayout] at first
  rw [← first, ← value_ofLayout]
  unfold Traced.commit
  rcases (Journal.new v).absorb (ofLayout layout).events.toList with ⟨_ | abort, after⟩
  · rfl
  · rfl

/-- So layouts with the same symbols and the same places have the same outcome. -/
theorem outcome_of_places {a b : Layout} (symbols : a.symbols = b.symbols)
    (places : a.code.map Item.place = b.code.map Item.place) (v w : Verbosity) :
    outcome ((ofLayout a).commit (.new v)).1 = outcome ((ofLayout b).commit (.new w)).1 := by
  have words : (words a).map Placed.content = (words b).map Placed.content := by
    rw [content_words, content_words, symbols, places]
  rw [outcome_commit, outcome_commit, symbols, places, content_ofWords words]

end Image

end Anem
