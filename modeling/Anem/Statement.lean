import Anem.Event
import Anem.Pseudo
import Anem.Text.Lines
import Anem.Text.UpperCase

/-!
From source lines to statements. A statement is a label, an instruction or
directive in upper case, or both, and keeps the number of its line. Comments
and blank lines are gone, and pseudo-instructions are expanded.
-/
namespace Anem

structure SourceLine where
  number : Nat
  text : Text
deriving DecidableEq, Repr

/-- The numbered lines of a source text. -/
def SourceLine.ofSource (source : Text) : List SourceLine :=
  (Text.lines source).zipIdx.map fun p => ⟨p.2 + 1, p.1⟩

structure Statement where
  origin : Nat
  label : Option Text
  /-- Empty when the label stands alone. -/
  text : Text
deriving DecidableEq, Repr

namespace Statement

def print (s : Statement) : Text :=
  match s.label with
  | some label => if s.text.isEmpty then label ++ [':'] else label ++ ':' :: ' ' :: s.text
  | none => s.text

/-- Two dashes start a comment that reaches to the end of the text. -/
def startsComment : Text → Bool
  | '-' :: '-' :: rest => ! rest.contains '\n'
  | _ => false

def stripComment : Text → Text
  | [] => []
  | c :: t => if startsComment (c :: t) then [] else c :: stripComment t

/-- What a source line says: in upper case, without comment and outer blanks. -/
def clean (t : Text) : Text :=
  Text.trim (stripComment (Text.trim (Text.upper t)))

/-- The label before the first colon, if it is a name, and the rest. -/
def splitLabel (t : Text) : Option Text × Text :=
  match Text.cutAt? ':' t with
  | some (front, rest) =>
    if Text.isIdentifier (Text.trim front) then (some (Text.trim front), Text.trim rest)
    else (none, t)
  | none => (none, t)

/-- The label of an expanded pseudo-instruction gets a statement of its own, so
that it lands on the first instruction. -/
def labelAlone (line : Nat) (mnemonic : Text) : Option Text → Traced (List Statement)
  | some label =>
    ⟨[⟨line, some label, []⟩],
     #[.debug ("Line ".toList ++ Text.decimal line ++ ": label followed by ".toList ++ mnemonic)]⟩
  | none => .silent []

def expansion (line : Nat) (kind : Pseudo.Kind) (body : Text) : Traced (List Statement) :=
  match Pseudo.read kind body with
  | .ok pseudo => .silent (pseudo.expand.map fun text => ⟨line, none, text⟩)
  | .error cause => ⟨[], #[.error line cause]⟩

/-- The statements of one line. -/
def ofLine (line : SourceLine) : Traced (List Statement) :=
  let text := clean line.text
  if text.isEmpty then .silent []
  else
    let (label, body) := splitLabel text
    let mnemonic := Text.firstWord body
    match Pseudo.Kind.ofName? mnemonic with
    | some kind =>
      (labelAlone line.number mnemonic label).andThen fun front =>
        let rest := expansion line.number kind body
        ⟨front ++ rest.value, rest.events⟩
    | none =>
      if mnemonic = "NOP".toList then
        if body = "NOP".toList then .silent [⟨line.number, label, noOperation⟩]
        else ⟨[], #[.error line.number (.malformedPseudo body)]⟩
      else if mnemonic = "MADD".toList then
        ⟨[], #[.fatal line.number (.unimplemented "MADD".toList)]⟩
      else .silent [⟨line.number, label, body⟩]

def ofLines (lines : List SourceLine) : Traced (List Statement) :=
  Traced.flatMap ofLine lines

end Statement

end Anem
