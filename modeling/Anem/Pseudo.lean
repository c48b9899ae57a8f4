import Anem.Fault
import Anem.Literal
import Anem.Text.Blank
import Anem.Text.Digit

/-!
Pseudo-instructions that stand for several instructions:

* `LIW $r, v` loads a word by its two bytes and lets the load settle;
* `MOVE $d, $s` clears a register and fills it from another;
* `LHI v` and `LLO v` fill one half of the HI and LO pair, byte by byte.

A register number is copied as it is spelled, in the digits of any script.
-/
namespace Anem

/-- Adding the zero register to itself changes nothing. -/
def noOperation : Text := "ADD $0, $0".toList

inductive Pseudo where
  | loadWord (register : Text) (word : Word)
  | move (target source : Text)
  | loadHigh (word : Word)
  | loadLow (word : Word)
deriving DecidableEq, Repr

namespace Pseudo

/-- The mnemonics of the pseudo-instructions of several instructions. -/
inductive Kind where
  | liw | move | lhi | llo
deriving DecidableEq, Repr

def Kind.ofName? (t : Text) : Option Kind :=
  if t = "LIW".toList then some liw
  else if t = "MOVE".toList then some move
  else if t = "LHI".toList then some lhi
  else if t = "LLO".toList then some llo
  else none

def readRegister? : Text → Option Text
  | '$' :: digits =>
    if (digits.length = 1 ∨ digits.length = 2) ∧ digits.all Text.isDecimalDigit then some digits
    else none
  | _ => none

def readPair? (operands : Text) : Option (Text × Text) :=
  (Text.cutAt? ',' operands).map fun p => (Text.trim p.1, Text.trim p.2)

/-- The word that a number denotes, with or without a sign. -/
def toWord (lowest value : Int) : Except Fault Word :=
  if value < lowest ∨ 0xFFFF < value then .error (.fieldRange value 16)
  else .ok (BitVec.ofInt 16 value)

/-- Reads the operands of a pseudo-instruction; `body` is quoted when they do
not fit. -/
def read (kind : Kind) (body : Text) : Except Fault Pseudo :=
  let operands := (Text.cutWord body).2
  let malformed := .error (.malformedPseudo body)
  match kind with
  | .liw =>
    match readPair? operands with
    | some (register, value) =>
      match readRegister? register, Literal.read? .constant value with
      | some register, some value => (toWord (-0x8000) value).map (loadWord register)
      | _, _ => malformed
    | none => malformed
  | .move =>
    match readPair? operands with
    | some (target, source) =>
      match readRegister? target, readRegister? source with
      | some target, some source => .ok (move target source)
      | _, _ => malformed
    | none => malformed
  | .lhi =>
    match Literal.read? .address (Text.trim operands) with
    | some value => (toWord 0 value).map loadHigh
    | none => malformed
  | .llo =>
    match Literal.read? .address (Text.trim operands) with
    | some value => (toWord 0 value).map loadLow
    | none => malformed

/-- A mnemonic before the upper byte of a word, another before the lower. -/
def byteByByte (upper lower : Text) (word : Word) : List Text :=
  [upper ++ Text.decimal (word.toNat / 256), lower ++ Text.decimal (word.toNat % 256)]

def expand : Pseudo → List Text
  | loadWord register word =>
    byteByByte ("LIU $".toList ++ register ++ ", ".toList)
      ("LIL $".toList ++ register ++ ", ".toList) word ++ [noOperation]
  | move target source =>
    ["AND $".toList ++ target ++ ", $0".toList,
     "OR $".toList ++ target ++ ", $".toList ++ source]
  | loadHigh word => byteByByte "LHH ".toList "LHL ".toList word
  | loadLow word => byteByByte "LLH ".toList "LLL ".toList word

end Pseudo

end Anem
