import Anem.Word

/-!
What can be wrong with a line, and the abort that ends a run. A fault keeps its
cause; the wording is in `Fault.message` alone.
-/
namespace Anem

inductive Fault where
  /-- No instruction is spelled like this. -/
  | malformed (line : Text)
  | malformedPseudo (body : Text)
  | invalidDirective (text : Text)
  | undefinedSymbol (name : Text)
  | redefinition (name : Text)
  | fieldRange (value : Int) (width : Nat)
  /-- A jump whose label is too far from its address. -/
  | displacement (address : Address) (mnemonic : Text) (offset : Int)
  | symbolicOffset (line : Text)
  | unimplemented (what : Text)
deriving DecidableEq, Repr

namespace Fault

def message : Fault → Text
  | malformed line => "unsupported or malformed instruction: ".toList ++ line
  | malformedPseudo body => "malformed pseudo-instruction: ".toList ++ body
  | invalidDirective text => "invalid directive: ".toList ++ text
  | undefinedSymbol name => "undefined symbol `".toList ++ name ++ "`".toList
  | redefinition name => "symbol `".toList ++ name ++ "` is already defined".toList
  | fieldRange value width =>
    "value ".toList ++ Text.signedDecimal value ++ " does not fit in a ".toList ++
      Text.decimal width ++ "-bit field".toList
  | displacement address mnemonic offset =>
    "INST ".toList ++ Text.decimal address.toNat ++ ": ".toList ++ mnemonic ++
      " cannot jump to intended place. OFFSET = ".toList ++ Text.signedDecimal offset
  | symbolicOffset line =>
    "symbolic offsets are not supported in memory operands: ".toList ++ line
  | unimplemented what => what ++ " is not implemented".toList

/-- Faults that end the run: going on would place a word that jumps astray, or
leave out one that the program relies on. -/
def isFatal : Fault → Bool
  | displacement .. | unimplemented _ => true
  | _ => false

/-- Work that goes through went through at every step. -/
theorem bind_eq_ok {α β : Type} {first : Except Fault α} {next : α → Except Fault β} {b : β} :
    first >>= next = .ok b ↔ ∃ a, first = .ok a ∧ next a = .ok b := by
  rcases first with cause | a
  · simp [bind, Except.bind]
  · simp [bind, Except.bind]

end Fault

/-- The line and the fault that ended a run. -/
structure Abort where
  line : Nat
  cause : Fault
deriving DecidableEq, Repr

def Abort.message (abort : Abort) : Text :=
  "assembly aborted on line ".toList ++ Text.decimal abort.line ++ ": ".toList ++
    abort.cause.message

end Anem
