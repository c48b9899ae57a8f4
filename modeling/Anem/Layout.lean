import Anem.Directive
import Anem.Statement
import Anem.SymbolTable

/-!
The place of every instruction and the value of every symbol. Statements are
placed one after the other from address zero on; a directive moves the counter
and a label takes its value.
-/
namespace Anem

structure Item where
  address : Address
  origin : Nat
  text : Text
deriving DecidableEq, Repr

structure Layout where
  symbols : SymbolTable
  code : List Item

/-- A set of addresses, one bit for each. -/
structure AddressSet where
  bits : Nat

namespace AddressSet

def empty : AddressSet := ⟨0⟩

def contains (s : AddressSet) (a : Nat) : Bool := s.bits.testBit a

def insert (s : AddressSet) (a : Nat) : AddressSet := ⟨s.bits ||| 1 <<< a⟩

@[simp] theorem contains_empty (a : Nat) : empty.contains a = false := by
  simp [empty, contains]

@[simp] theorem contains_insert (s : AddressSet) (a b : Nat) :
    (s.insert a).contains b = (decide (a = b) || s.contains b) := by
  simp [insert, contains, Nat.one_shiftLeft, Nat.testBit_two_pow, Bool.or_comm]

end AddressSet

namespace Layout

/-- The state between two statements. -/
structure Progress where
  /-- The next address; one beyond the last when the space is full. -/
  counter : Nat
  occupied : AddressSet
  symbols : SymbolTable
  code : Array Item

def Progress.start : Progress := ⟨0, .empty, .empty, #[]⟩

/-- Gives a label the value of the counter. -/
def bindLabel (p : Progress) (line : Nat) : Option Text → Traced Progress
  | none => .silent p
  | some label =>
    match p.symbols.define label p.counter with
    | .ok symbols =>
      ⟨{ p with symbols },
       #[.debug ("Line ".toList ++ Text.decimal line ++ ": label ".toList ++ label ++
          " = ".toList ++ Text.decimal p.counter)]⟩
    | .error cause => ⟨p, #[.error line cause]⟩

def applyDirective (p : Progress) (line : Nat) (text : Text) : Traced Progress :=
  match Directive.read? text with
  | some (.address value) =>
    if value < addressLimit then .silent { p with counter := value.toNat }
    else ⟨p, #[.error line (.fieldRange value 16)]⟩
  | some (.constant name value) =>
    match p.symbols.define name value with
    | .ok symbols => .silent { p with symbols }
    | .error cause => ⟨p, #[.error line cause]⟩
  | none => ⟨p, #[.error line (.invalidDirective text)]⟩

/-- Puts an instruction at the counter. A place that is taken is taken over. -/
def place (p : Progress) (line : Nat) (text : Text) : Traced Progress :=
  if p.counter < addressLimit then
    { value :=
        { p with
          counter := p.counter + 1
          occupied := p.occupied.insert p.counter
          code := p.code.push ⟨BitVec.ofNat 16 p.counter, line, text⟩ }
      events :=
        if p.occupied.contains p.counter then
          #[.warning (some line) ("address ".toList ++ Text.decimal p.counter ++
            " is already occupied, the later instruction wins".toList)]
        else #[] }
  else ⟨p, #[.error line (.fieldRange p.counter 16)]⟩

/-- A statement's label counts before its text. -/
def step (p : Progress) (s : Statement) : Traced Progress :=
  (bindLabel p s.origin s.label).andThen fun p =>
    match s.text with
    | [] => .silent p
    | '.' :: _ => applyDirective p s.origin s.text
    | _ => place p s.origin s.text

def summary (p : Progress) : Text :=
  "indexed ".toList ++ Text.decimal p.code.size ++ " instruction(s), ".toList ++
    Text.decimal p.symbols.size ++ " symbol(s)".toList

def ofStatements (statements : List Statement) : Traced Layout :=
  (Traced.foldl step .start statements).andThen fun p =>
    ⟨⟨p.symbols, p.code.toList⟩, #[.debug (summary p)]⟩

end Layout

end Anem
