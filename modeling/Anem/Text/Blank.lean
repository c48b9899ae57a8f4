import Anem.Text.Basic

/-!
Blank characters, trimming, and the words between blanks. Blank means the
`White_Space` property: the separators of every script, but no zero-width
space and no byte order mark.
-/
namespace Anem.Text

def blanks : CharSet :=
  [(0x09, 0x0D), (0x20, 0x20), (0x85, 0x85), (0xA0, 0xA0), (0x1680, 0x1680), (0x2000, 0x200A),
   (0x2028, 0x2029), (0x202F, 0x202F), (0x205F, 0x205F), (0x3000, 0x3000)]

def isBlank (c : Char) : Bool :=
  blanks.contains c

def trimStart (t : Text) : Text :=
  t.dropWhile isBlank

def trimEnd (t : Text) : Text :=
  (t.reverse.dropWhile isBlank).reverse

/-- The text without the blanks at either end. -/
def trim (t : Text) : Text :=
  trimEnd (trimStart t)

/-- The longest blank-free front of the text, and what follows it. -/
def cutWord (t : Text) : Text × Text :=
  (t.takeWhile (! isBlank ·), t.dropWhile (! isBlank ·))

/-- The first word of the text, empty when there is none. -/
def firstWord (t : Text) : Text :=
  (cutWord (trimStart t)).1

theorem cutWord_append (t : Text) : (cutWord t).1 ++ (cutWord t).2 = t :=
  List.takeWhile_append_dropWhile

end Anem.Text
