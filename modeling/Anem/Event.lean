import Anem.Fault

/-!
What a pass reports, in the order of its work. A pass does not know who
listens, so its result and its events depend on its input alone.
-/
namespace Anem

inductive Event where
  /-- The line is dropped and the pass goes on. -/
  | error (line : Nat) (cause : Fault)
  /-- The run ends here. -/
  | fatal (line : Nat) (cause : Fault)
  | warning (line : Option Nat) (message : Text)
  | info (message : Text)
  | debug (message : Text)
deriving DecidableEq, Repr

/-- A result and the events on the way to it. -/
structure Traced (α : Type) where
  value : α
  events : Array Event

namespace Traced

def silent {α : Type} (value : α) : Traced α := ⟨value, #[]⟩

/-- What follows a traced result; the events come after the earlier ones. -/
def andThen {α β : Type} (t : Traced α) (next : α → Traced β) : Traced β :=
  let s := next t.value
  ⟨s.value, t.events ++ s.events⟩

@[simp] theorem value_andThen {α β : Type} (t : Traced α) (next : α → Traced β) :
    (t.andThen next).value = (next t.value).value := rfl

@[simp] theorem events_andThen {α β : Type} (t : Traced α) (next : α → Traced β) :
    (t.andThen next).events = t.events ++ (next t.value).events := rfl

/-- A state carried along a list. -/
def foldl {σ α : Type} (step : σ → α → Traced σ) (init : σ) (xs : List α) : Traced σ :=
  xs.foldl (fun t x => t.andThen fun s => step s x) (silent init)

/-- The last state does not depend on the events. -/
theorem value_foldl {σ α : Type} (step : σ → α → Traced σ) (init : σ) (xs : List α) :
    (foldl step init xs).value = xs.foldl (fun s x => (step s x).value) init := by
  suffices ∀ t : Traced σ, (xs.foldl (fun t x => t.andThen fun s => step s x) t).value =
      xs.foldl (fun s x => (step s x).value) t.value from this (silent init)
  induction xs with
  | nil => intro t; rfl
  | cons x xs ih => intro t; exact ih _

def flatMap {α β : Type} (f : α → Traced (List β)) (xs : List α) : Traced (List β) :=
  let results := xs.map f
  ⟨results.flatMap (·.value), (results.flatMap (·.events.toList)).toArray⟩

end Traced

end Anem
