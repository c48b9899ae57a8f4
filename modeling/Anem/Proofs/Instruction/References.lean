import Anem.Image
import Anem.Proofs.Instruction.Spelling

namespace Anem

namespace Instruction

open Mnemonic (name code)

/-- The symbol that an instruction mentions. -/
def symbol? : Instruction → Option Text
  | loadByte _ _ (.symbol name _) => some name
  | jump _ (.label name) _ => some name
  | _ => none

theorem encode_of_no_symbol {ins : Instruction} (none : ins.symbol? = none) (a b : Address)
    (t u : SymbolTable) : ins.encode a t = ins.encode b u := by
  cases ins with
  | loadByte op ra byte =>
    cases byte with
    | literal value => rfl
    | symbol name part => cases none
  | jump op target predicate =>
    cases target with
    | literal value => rfl
    | label name => cases none
  | _ => rfl

/-- Tables that agree on the symbol of an instruction give it the same word. -/
theorem encode_congr {ins : Instruction} {t u : SymbolTable}
    (same : ∀ name, ins.symbol? = some name → t.get? name = u.get? name) (address : Address) :
    ins.encode address t = ins.encode address u := by
  have resolve (name : Text) (mentioned : ins.symbol? = some name) :
      t.resolve name = u.resolve name := by
    rw [SymbolTable.resolve, SymbolTable.resolve, same name mentioned]
  cases ins with
  | loadByte op ra byte =>
    cases byte with
    | literal value => rfl
    | symbol name part => simp only [encode, operandField, Immediate.resolve, resolve name rfl]
  | jump op target predicate =>
    cases target with
    | literal value => rfl
    | label name => simp only [encode, operandField, targetField, resolve name rfl]
  | _ => rfl

/-- Without a value of its symbol an instruction has no word. -/
theorem encode_of_unbound {ins : Instruction} {t : SymbolTable} {name : Text}
    (mentioned : ins.symbol? = some name) (unbound : t.get? name = none) (address : Address) :
    ins.encode address t = .error (.undefinedSymbol name) := by
  have unresolved : t.resolve name = .error (.undefinedSymbol name) := by
    rw [SymbolTable.resolve, unbound]
  cases ins with
  | loadByte op ra byte =>
    cases byte with
    | literal value => cases mentioned
    | symbol other part =>
      cases mentioned
      simp only [encode, operandField, Immediate.resolve, unresolved]
      rfl
  | jump op target predicate =>
    cases target with
    | literal value => cases mentioned
    | label other =>
      cases mentioned
      simp only [encode, operandField, targetField, unresolved]
      rfl
  | _ => cases mentioned

def jumpField (field : Nat) : Option Predicate → Nat
  | some predicate => code predicate * 0x400 + field
  | none => field

/-- The word of a jump to a symbol holds the distance to its value; where that
does not fit, the jump is too far. -/
theorem encode_jump {symbols : SymbolTable} {op : Jump} {label : Text}
    {predicate : Option Predicate} {value : Int} (bound : symbols.get? label = some value)
    (whole : predicate.isSome = true ↔ op = .bz) (address : Address) :
    (jump op (.label label) predicate).encode address symbols =
      match Field.signed (distance value address) op.targetWidth with
      | .ok field => .ok (Word.pack (code op) (jumpField field predicate))
      | .error _ => .error (.displacement address (name op) (distance value address)) := by
  have resolved : symbols.resolve label = .ok value := by rw [SymbolTable.resolve, bound]
  simp only [encode, operandField, targetField, resolved, bind, Except.bind]
  cases Field.signed (distance value address) op.targetWidth with
  | error cause => rfl
  | ok field =>
    cases op with
    | bz =>
      obtain ⟨p, rfl⟩ := Option.isSome_iff_exists.mp (whole.mpr rfl)
      rfl
    | j | jal | bhleq =>
      cases predicate with
      | none => rfl
      | some p => cases whole.mp rfl

end Instruction

namespace Item

theorem encode_of_parse {item : Item} {ins : Instruction}
    (parsed : Instruction.parse item.text = .ok ins) (symbols : SymbolTable) :
    item.encode symbols = ins.encode item.address symbols := by
  rw [encode, parsed]
  rfl

theorem encode_of_unparsed {item : Item} {cause : Fault}
    (failed : Instruction.parse item.text = .error cause) (symbols : SymbolTable) :
    item.encode symbols = .error cause := by
  rw [encode, failed]
  rfl

/-- Without a symbol an item fares the same wherever it lies. -/
theorem encode_of_mute {item other : Item} (same : other.text = item.text)
    (mute : ∀ ins, Instruction.parse item.text = .ok ins → ins.symbol? = none)
    (t u : SymbolTable) : other.encode u = item.encode t := by
  cases parsed : Instruction.parse item.text with
  | error cause =>
    rw [encode_of_unparsed parsed, encode_of_unparsed (same ▸ parsed)]
  | ok ins =>
    rw [encode_of_parse parsed, encode_of_parse (same ▸ parsed)]
    exact Instruction.encode_of_no_symbol (mute ins parsed) _ _ _ _

end Item

end Anem
