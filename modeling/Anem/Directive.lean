import Anem.Literal
import Anem.Text.Blank
import Anem.Text.WordChar

namespace Anem

/-- `.ADDRESS v` moves to an address, and `.CONSTANT NAME = v` gives a name a
value that is no address. -/
inductive Directive where
  | address (value : Int)
  | constant (name : Text) (value : Int)
deriving DecidableEq, Repr

namespace Directive

/-- What follows a keyword and one or more blanks, without outer blanks. -/
def argument? (keyword t : Text) : Option Text :=
  match Text.after? keyword t with
  | some (c :: rest) => if Text.isBlank c then some (Text.trim rest) else none
  | _ => none

/-- A run of word characters, an equals sign and a literal. -/
def readConstant? (t : Text) : Option Directive :=
  let name := t.takeWhile Text.isWordChar
  if name.isEmpty then none
  else match Text.trimStart (t.dropWhile Text.isWordChar) with
    | '=' :: value => (Literal.read? .constant (Text.trim value)).map (constant name)
    | _ => none

def read? (t : Text) : Option Directive :=
  match argument? ".ADDRESS".toList t with
  | some value => (Literal.read? .address value).map address
  | none => match argument? ".CONSTANT".toList t with
    | some definition => readConstant? definition
    | none => none

end Directive

end Anem
