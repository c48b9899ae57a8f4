import Anem.Image

namespace Anem.Listing

def statements (ss : List Statement) : Text :=
  Text.unlines (ss.map fun s => Text.decimal s.origin ++ '\t' :: s.print)

def layout (l : Layout) : Text :=
  Text.unlines
    (".LABELS".toList :: (l.symbols.entries.map fun e => e.1 ++ '\t' :: Text.signedDecimal e.2) ++
      ".CODE".toList :: l.code.map fun item =>
        Text.decimal item.address.toNat ++ '\t' :: Text.decimal item.origin ++ '\t' :: item.text)

def image (withAddress : Bool) (words : Image) : Text :=
  Text.unlines (words.map fun w =>
    if withAddress then Word.binary w.address ++ '\t' :: Word.binary w.bits
    else Word.binary w.bits)

/-- What follows the last tab. -/
def lastColumn (t : Text) : Text :=
  (t.reverse.takeWhile (· != '\t')).reverse

/-- Sixteen characters: binary digits, of which the first may be a plus sign. -/
def readWord? (t : Text) : Option Word :=
  if t.length = 16 then
    let digits := match t with
      | '+' :: digits => digits
      | digits => digits
    (Text.readDigits? 2 digits).map (BitVec.ofNat 16)
  else none

/-- The word in the last column of a line. -/
def readRow (line : Text) : Except Fault Word :=
  match readWord? (Text.trim (lastColumn line)) with
  | some word => .ok word
  | none => .error (.malformed line)

/-- The words of a binary listing; blank lines do not count. -/
def readImage (t : Text) : Except Fault (List Word) :=
  (((Text.lines t).map Text.trim).filter (! ·.isEmpty)).mapM readRow

end Anem.Listing
