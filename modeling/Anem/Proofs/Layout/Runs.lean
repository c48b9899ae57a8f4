import Anem.Proofs.Layout.Faultless

namespace Anem.Layout

/-- The code that a line gives. -/
def codeOf (layout : Layout) (line : Nat) : List Item :=
  layout.code.filter fun item => item.origin = line

theorem position_append_bare (before : List Statement) {bare : List Statement}
    (h : ∀ s ∈ bare, s.text = []) : position (before ++ bare) = position before := by
  have still : ∀ s ∈ bare, s.move? = none := fun s hs => by
    rw [Statement.move?, Statement.role, h s hs]
  have none : bare.countP Statement.isInstruction = 0 :=
    List.countP_eq_zero.mpr fun s hs => by simp [Statement.isInstruction, h s hs]
  rw [position_append_still before still, none, Nat.add_zero]

theorem filter_placement (before : List Statement) (s : Statement) (line : Nat) :
    (placement before s).filter (fun p => decide (p.2.1 = line)) =
      if s.origin = line then placement before s else [] := by
  rw [placement, landing]
  by_cases placed : s.isInstruction = true ∧ position before < addressLimit
  · rw [if_pos placed, List.filter_singleton, Bool.cond_decide]
  · rw [if_neg placed]
    simp

/-- The code of a line is what its own statements add. -/
theorem codeOf_ofStatements {before own after : List Statement} {line : Nat}
    (earlier : ∀ s ∈ before, s.origin ≠ line) (same : ∀ s ∈ own, s.origin = line)
    (later : ∀ s ∈ after, s.origin ≠ line) :
    ((ofStatements (before ++ (own ++ after))).value.codeOf line).map spot =
      gather (fun front => placement (before ++ front)) own := by
  have spots := congrArg (List.filter fun p => decide (p.2.1 = line))
    (code_ofStatements (before ++ (own ++ after)))
  rw [List.filter_map, filter_gather] at spots
  simp only [filter_placement] at spots
  rw [gather_append, gather_append] at spots
  refine spots.trans ?_
  have first : gather (fun front s => if s.origin = line then placement front s else [])
      before = [] := by
    rw [gather_eq_nil_iff]
    intro front s rest split
    exact if_neg (earlier s (by simp [split]))
  have last : gather (fun front s => if s.origin = line then placement (before ++ (own ++ front)) s
      else []) after = [] := by
    rw [gather_eq_nil_iff]
    intro front s rest split
    exact if_neg (later s (by simp [split]))
  rw [first, last, List.nil_append, List.append_nil]
  apply gather_congr
  intro front s rest split
  exact if_pos (same s (by simp [split]))

/-- Instructions one after the other take the places from this one on, as far
as the address space reaches. -/
theorem gather_landing (n line : Nat) {texts : List Text}
    (h : ∀ text ∈ texts, (⟨line, none, text⟩ : Statement).isInstruction = true) :
    gather (fun front => landing (n + front.length)) (texts.map fun text => ⟨line, none, text⟩) =
      ((texts.take (addressLimit - n)).zipIdx n).map fun p => (p.2, line, p.1) := by
  induction texts generalizing n with
  | nil => rw [List.take_nil]; rfl
  | cons text texts ih =>
    have own := h text List.mem_cons_self
    have rest := ih (n + 1) fun t ht => h t (List.mem_cons_of_mem _ ht)
    simp only [Nat.add_assoc, Nat.add_comm 1] at rest
    rw [List.map_cons, gather]
    simp only [List.length_cons, List.length_nil, Nat.add_zero, rest, landing, own]
    by_cases room : n < addressLimit
    · have left : addressLimit - n = (addressLimit - (n + 1)) + 1 := by omega
      simp only [room, and_self, if_true, left, List.take_succ_cons, List.zipIdx_cons, List.map_cons]
      rfl
    · have none : addressLimit - n = 0 := by omega
      have beyond : addressLimit - (n + 1) = 0 := by omega
      simp [room, none, beyond]

section Run

variable (before : List Statement) {bare after : List Statement} {line : Nat} {texts : List Text}
  (bareText : ∀ s ∈ bare, s.text = [])
  (instructions : ∀ text ∈ texts, (⟨line, none, text⟩ : Statement).isInstruction = true)

include bareText instructions

theorem position_run : position (before ++ bare ++ texts.map fun text => ⟨line, none, text⟩) =
    position before + texts.length := by
  have roles : ∀ s ∈ texts.map (fun text => (⟨line, none, text⟩ : Statement)),
      s.role = .instruction := by
    intro s hs
    obtain ⟨text, given, rfl⟩ := List.mem_map.mp hs
    exact Statement.isInstruction_iff.mp (instructions text given)
  rw [position_append_run _ roles, position_append_bare before bareText, List.length_map]

theorem codeOf_run (earlier : ∀ s ∈ before, s.origin ≠ line) (own : ∀ s ∈ bare, s.origin = line)
    (later : ∀ s ∈ after, s.origin ≠ line) :
    ((ofStatements (before ++
        (bare ++ (texts.map fun text => ⟨line, none, text⟩) ++ after))).value.codeOf line).map
        (fun item => (item.text, item.address.toNat)) =
      (texts.take (addressLimit - position before)).zipIdx (position before) := by
  have same : ∀ s ∈ bare ++ texts.map (fun text => ⟨line, none, text⟩), s.origin = line := by
    intro s hs
    rcases List.mem_append.mp hs with hs | hs
    · exact own s hs
    · obtain ⟨text, -, rfl⟩ := List.mem_map.mp hs
      rfl
  have spots := codeOf_ofStatements earlier same later
  have empty : gather (fun front => placement (before ++ front)) bare = [] := by
    rw [gather_eq_nil_iff]
    intro front s rest split
    have bare := bareText s (by simp [split])
    simp [placement, landing, Statement.isInstruction, bare]
  have places : gather (fun front => placement (before ++ (bare ++ front)))
      (texts.map fun text => ⟨line, none, text⟩) =
      gather (fun front => landing (position before + front.length))
        (texts.map fun text => ⟨line, none, text⟩) := by
    apply gather_congr
    intro front s rest split
    obtain ⟨first, second, rfl, rfl, -⟩ := List.map_eq_append_iff.mp split
    have place := position_run before bareText
      fun text given => instructions text (List.mem_append_left _ given)
    rw [placement, ← List.append_assoc, place, List.length_map]
  rw [gather_append, empty, places, gather_landing _ _ instructions, List.nil_append] at spots
  have turned := congrArg (List.map fun p => (p.2.2, p.1)) spots
  rw [List.map_map, List.map_map] at turned
  refine turned.trans (List.map_id'' ?_ _)
  intro p
  rfl

/-- A run past the last address is a fault of its line. -/
theorem faults_run (present : texts ≠ []) (beyond : addressLimit < position before + texts.length) :
    (line, .fieldRange addressLimit 16) ∈
      gather faults (before ++ (bare ++ (texts.map fun text => ⟨line, none, text⟩) ++ after)) := by
  obtain empty | ⟨front, last, rfl⟩ := texts.eq_nil_or_concat'
  · exact absurd empty present
  have place := position_run before bareText
    fun text given => instructions text (List.mem_append_left [last] given)
  have role := Statement.isInstruction_iff.mp (instructions last (by simp))
  rw [List.length_append, List.length_singleton] at beyond
  have full : ¬ position before + front.length < addressLimit := by omega
  refine mem_gather.mpr ⟨before ++ bare ++ front.map fun text => ⟨line, none, text⟩,
    ⟨line, none, last⟩, after, by simp, ?_⟩
  refine List.mem_map.mpr ⟨_, List.mem_append_right _ ?_, rfl⟩
  rw [refusal, role, place]
  simp [full]

end Run

end Anem.Layout
