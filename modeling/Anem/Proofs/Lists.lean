import Mathlib.Data.List.Basic

namespace Anem

section Gather

variable {α β : Type}

/-- What each member contributes, given the members before it. -/
def gather (f : List α → α → List β) : List α → List β
  | [] => []
  | x :: xs => f [] x ++ gather (fun before => f (x :: before)) xs

theorem gather_append (f : List α → α → List β) (xs ys : List α) :
    gather f (xs ++ ys) = gather f xs ++ gather (fun before => f (xs ++ before)) ys := by
  induction xs generalizing f with
  | nil => rfl
  | cons x xs ih => simp only [List.cons_append, gather, ih, List.append_assoc]

theorem gather_append_singleton (f : List α → α → List β) (xs : List α) (x : α) :
    gather f (xs ++ [x]) = gather f xs ++ f xs x := by
  simp [gather_append, gather]

theorem map_gather {γ : Type} (f : List α → α → List β) (g : β → γ) (xs : List α) :
    (gather f xs).map g = gather (fun before x => (f before x).map g) xs := by
  induction xs generalizing f with
  | nil => rfl
  | cons x xs ih => rw [gather, gather, List.map_append, ih]

theorem filter_gather (f : List α → α → List β) (p : β → Bool) (xs : List α) :
    (gather f xs).filter p = gather (fun before x => (f before x).filter p) xs := by
  induction xs generalizing f with
  | nil => rfl
  | cons x xs ih => rw [gather, gather, List.filter_append, ih]

theorem gather_congr {f g : List α → α → List β} {xs : List α}
    (h : ∀ before x after, xs = before ++ x :: after → f before x = g before x) :
    gather f xs = gather g xs := by
  induction xs generalizing f g with
  | nil => rfl
  | cons x xs ih =>
    rw [gather, gather, h [] x xs rfl]
    congr 1
    apply ih
    intro before y after split
    exact h (x :: before) y after (by rw [split, List.cons_append])

theorem mem_gather {f : List α → α → List β} {xs : List α} {y : β} :
    y ∈ gather f xs ↔ ∃ before x after, xs = before ++ x :: after ∧ y ∈ f before x := by
  constructor
  · intro h
    induction xs generalizing f with
    | nil => cases h
    | cons x xs ih =>
      rcases List.mem_append.mp h with h | h
      · exact ⟨[], x, xs, rfl, h⟩
      · obtain ⟨before, z, after, rfl, hz⟩ := ih h
        exact ⟨x :: before, z, after, rfl, hz⟩
  · rintro ⟨before, x, after, rfl, h⟩
    rw [gather_append, gather, List.append_nil]
    exact List.mem_append_right _ (List.mem_append_left _ h)

theorem gather_eq_nil_iff {f : List α → α → List β} {xs : List α} :
    gather f xs = [] ↔ ∀ before x after, xs = before ++ x :: after → f before x = [] := by
  simp only [List.eq_nil_iff_forall_not_mem, mem_gather, not_exists, not_and]
  exact ⟨fun h before x after split y => h y before x after split,
    fun h y before x after split => h before x after split y⟩

theorem gather_sublist {f : List α → α → List β} {g : α → β}
    (each : ∀ before x, (f before x).Sublist [g x]) (xs : List α) :
    (gather f xs).Sublist (xs.map g) := by
  induction xs generalizing f with
  | nil => exact List.Sublist.refl []
  | cons x xs ih =>
    rw [gather, List.map_cons]
    exact (each [] x).append (ih fun before y => each (x :: before) y)

/-- Contributions that do not depend on the members before. -/
theorem gather_const (g : α → List β) (xs : List α) :
    gather (fun _ => g) xs = xs.flatMap g := by
  induction xs with
  | nil => rfl
  | cons x xs ih => rw [gather, ih, List.flatMap_cons]

theorem gather_length (n : Nat) (xs : List α) :
    gather (fun before _ => [n + before.length]) xs = List.range' n xs.length := by
  induction xs generalizing n with
  | nil => rfl
  | cons x xs ih =>
    have next := ih (n + 1)
    simp only [Nat.add_assoc, Nat.add_comm 1] at next
    rw [gather, List.length_cons, List.range'_succ, ← next]
    rfl

theorem length_gather_le {f : List α → α → List β}
    (each : ∀ before x, (f before x).length ≤ 1) (xs : List α) :
    (gather f xs).length ≤ xs.length := by
  induction xs generalizing f with
  | nil => exact Nat.le_refl 0
  | cons x xs ih =>
    have first := each [] x
    have rest := ih fun before y => each (x :: before) y
    rw [gather, List.length_append, List.length_cons]
    omega

end Gather

theorem flatMap_ite {α β : Type} (p : α → Bool) (g : α → β) (xs : List α) :
    xs.flatMap (fun x => if p x then [g x] else []) = (xs.filter p).map g := by
  induction xs with
  | nil => rfl
  | cons x xs ih =>
    rw [List.flatMap_cons, ih, List.filter_cons]
    by_cases h : p x = true
    · simp [h]
    · simp [h]

/-- Where every result is marked with the key of its origin and the keys differ,
the results with a key are those of its owner. -/
theorem filter_flatMap_of_distinct {α β κ : Type} [DecidableEq κ] {f : α → List β} {key : α → κ}
    {mark : β → κ} (marked : ∀ x, ∀ y ∈ f x, mark y = key x) {xs : List α}
    (distinct : xs.Pairwise fun a b => key a ≠ key b) {x : α} (given : x ∈ xs) :
    (xs.flatMap f).filter (fun y => mark y = key x) = f x := by
  obtain ⟨before, after, rfl⟩ := List.append_of_mem given
  rw [List.pairwise_append, List.pairwise_cons] at distinct
  obtain ⟨-, ⟨later, -⟩, earlier⟩ := distinct
  have foreign {others : List α} (differ : ∀ a ∈ others, key a ≠ key x) :
      (others.flatMap f).filter (fun y => mark y = key x) = [] := by
    rw [List.filter_eq_nil_iff]
    intro y hy
    obtain ⟨a, ha, own⟩ := List.mem_flatMap.mp hy
    rw [marked a y own, decide_eq_true_iff]
    exact differ a ha
  have own : (f x).filter (fun y => mark y = key x) = f x := by
    rw [List.filter_eq_self]
    intro y hy
    exact decide_eq_true (marked x y hy)
  rw [List.flatMap_append, List.flatMap_cons, List.filter_append, List.filter_append, own,
    foreign fun a ha => earlier a ha x List.mem_cons_self,
    foreign fun a ha => (later a ha).symm, List.nil_append, List.append_nil]

/-- Two lists that agree under `f` and `g` agree once `h` inverts `g`. -/
theorem map_eq_of_map_eq {α β γ : Type} {f : α → γ} {g : β → γ} {h : α → β} {xs : List α}
    {ys : List β} (same : xs.map f = ys.map g)
    (inverse : ∀ x ∈ xs, ∀ y ∈ ys, f x = g y → h x = y) : xs.map h = ys := by
  induction xs generalizing ys with
  | nil => exact (List.map_eq_nil_iff.mp same.symm).symm
  | cons x xs ih =>
    cases ys with
    | nil => cases same
    | cons y ys =>
      obtain ⟨first, rest⟩ := List.cons.inj same
      have tail := ih rest fun x hx y hy =>
        inverse x (List.mem_cons_of_mem _ hx) y (List.mem_cons_of_mem _ hy)
      rw [List.map_cons, inverse x List.mem_cons_self y List.mem_cons_self first, tail]

/-- The first member of a kind, if there is one. -/
theorem exists_first {α : Type} {p : α → Bool} {xs : List α} (h : ∃ x ∈ xs, p x = true) :
    ∃ before x after, xs = before ++ x :: after ∧ (∀ y ∈ before, p y = false) ∧ p x = true := by
  obtain ⟨x, found⟩ := Option.isSome_iff_exists.mp (List.find?_isSome.mpr h)
  obtain ⟨holds, before, after, split, first⟩ := List.find?_eq_some_iff_append.mp found
  refine ⟨before, x, after, split, ?_, holds⟩
  intro y hy
  simpa using first y hy

/-- Members with a property of their own stand in one place. -/
theorem split_unique {α β : Type} {f : α → β} {xs before after earlier later : List α} {x y : α}
    (nodup : (xs.map f).Nodup) (left : xs = before ++ x :: after)
    (right : xs = earlier ++ y :: later) (same : f x = f y) :
    before = earlier ∧ x = y ∧ after = later := by
  subst left
  have apart : y ∉ before ∧ y ∉ after := by
    rw [List.map_append, List.map_cons, List.nodup_append, List.nodup_cons] at nodup
    obtain ⟨-, ⟨behind, -⟩, front⟩ := nodup
    constructor
    · intro hy
      exact front _ (List.mem_map_of_mem hy) _ List.mem_cons_self same.symm
    · intro hy
      rw [same] at behind
      exact behind (List.mem_map_of_mem hy)
  exact (List.append_cons_inj_of_notMem apart.1 apart.2).mp right

/-- What is before the first mark and what is behind it are determined. -/
theorem append_mark_injective {α : Type} {mark : α} {s t rest more : List α} (left : mark ∉ s)
    (right : mark ∉ t) (same : s ++ mark :: rest = t ++ mark :: more) : s = t ∧ rest = more := by
  induction s generalizing t with
  | nil =>
    cases t with
    | nil => exact ⟨rfl, (List.cons.inj same).2⟩
    | cons b t =>
      rw [← (List.cons.inj same).1] at right
      exact absurd List.mem_cons_self right
  | cons a s ih =>
    cases t with
    | nil =>
      rw [(List.cons.inj same).1] at left
      exact absurd List.mem_cons_self left
    | cons b t =>
      obtain ⟨rfl, tail⟩ := List.cons.inj same
      obtain ⟨rfl, behind⟩ := ih (fun h => left (List.mem_cons_of_mem _ h))
        (fun h => right (List.mem_cons_of_mem _ h)) tail
      exact ⟨rfl, behind⟩

theorem head_of_zipIdx {α : Type} {xs : List α} {m n k : Nat} {x : α}
    {rest : List (α × Nat)} (h : (xs.take m).zipIdx n = (x, k) :: rest) :
    xs.head? = some x ∧ k = n := by
  cases xs with
  | nil =>
    rw [List.take_nil] at h
    cases h
  | cons y xs =>
    cases m with
    | zero => cases h
    | succ m =>
      rw [List.take_succ_cons, List.zipIdx_cons] at h
      obtain ⟨text, place⟩ := Prod.mk.inj (List.cons.inj h).1
      exact ⟨congrArg some text, place.symm⟩

section Lookup

variable {κ ν : Type} [BEq κ] [LawfulBEq κ]

theorem lookup_append_of_ne {other name : κ} (ne : other ≠ name) (known : List (κ × ν)) (value : ν) :
    (known ++ [(name, value)]).lookup other = known.lookup other := by
  rw [List.lookup_append, List.lookup_cons, beq_false_of_ne ne]
  exact Option.or_none

theorem lookup_singleton [DecidableEq κ] (other name : κ) (value : ν) :
    [(other, value)].lookup name = if other = name then some value else none := by
  by_cases same : other = name
  · rw [if_pos same, same, List.lookup_cons_self]
  · rw [if_neg same, List.lookup_cons, beq_false_of_ne (Ne.symm same)]
    rfl

end Lookup

section MapM

variable {α β : Type} {f : α → Option β}

theorem mapM_eq_nil {xs : List α} :
    xs.mapM f = some [] ↔ xs = [] := by
  cases xs with
  | nil => simp
  | cons x xs => simp [List.mapM_cons, Option.bind_eq_some_iff]

theorem mapM_eq_cons {xs : List α} {y : β} {ys : List β} :
    xs.mapM f = some (y :: ys) ↔ ∃ x rest, xs = x :: rest ∧ f x = some y ∧ rest.mapM f = some ys := by
  cases xs with
  | nil => simp
  | cons x xs => simp [List.mapM_cons, Option.bind_eq_some_iff]

theorem mem_of_mapM {xs : List α} {ys : List β}
    (h : xs.mapM f = some ys) {y : β} (hy : y ∈ ys) : ∃ x ∈ xs, f x = some y := by
  induction xs generalizing ys with
  | nil =>
    obtain rfl : ys = [] := by simpa using h.symm
    cases hy
  | cons x xs ih =>
    obtain ⟨z, hz, zs, hzs, rfl⟩ :
        ∃ z, f x = some z ∧ ∃ zs, xs.mapM f = some zs ∧ z :: zs = ys := by
      simpa [List.mapM_cons, Option.bind_eq_some_iff] using h
    rcases List.mem_cons.mp hy with rfl | hy
    · exact ⟨x, List.mem_cons_self, hz⟩
    · obtain ⟨w, hw, eq⟩ := ih hzs hy
      exact ⟨w, List.mem_cons_of_mem _ hw, eq⟩

end MapM

end Anem
