import Anem.Text.Columns

/-!
Letters that are drawn as one. A text is measured from its end, so the last
letter opens a ligature, and the letters in front of it extend and close it.
-/
namespace Anem.Text

/-- The zero-width joiner, which asks for its two sides to be drawn as one. -/
def joiner : Char := '\u200D'

def unbreaking : CharSet :=
  [(0x034F, 0x034F), (0x17B4, 0x17B5), (0x180B, 0x180D), (0x180F, 0x180F), (0x200D, 0x200D),
   (0xFE00, 0xFE0F), (0xE0100, 0xE01EF)]

def arabicAlef : CharSet :=
  [(0x0622, 0x0623), (0x0625, 0x0625), (0x0627, 0x0627), (0x0671, 0x0673), (0x0675, 0x0675),
   (0x0773, 0x0774), (0x0870, 0x0882)]

def arabicLam : CharSet :=
  [(0x0644, 0x0644), (0x06B5, 0x06B8), (0x076A, 0x076A), (0x08A6, 0x08A6), (0x08C7, 0x08C7)]

def khmerSubjoined : CharSet :=
  [(0x1780, 0x1782), (0x1784, 0x1787), (0x1789, 0x178C), (0x178E, 0x1793), (0x1795, 0x1798),
   (0x179B, 0x179D), (0x17A0, 0x17A0), (0x17A2, 0x17A2), (0x17A7, 0x17A7), (0x17AB, 0x17AC),
   (0x17AF, 0x17AF)]

def tifinaghConsonant : CharSet :=
  [(0x2D31, 0x2D65), (0x2D6F, 0x2D6F)]

def lisuFirstTone : CharSet :=
  [(0xA4F8, 0xA4FB)]

def lisuLastTone : CharSet :=
  [(0xA4FC, 0xA4FD)]

/-- The part of a ligature that has been read: an Arabic alef, a Khmer letter
below another one, a Hebrew lamed, a Buginese ya without or with its vowel sign,
a Tifinagh consonant without or with the joiner of its script, a Lisu tone or an
Old Turkic i. `joined` says that a joiner stands in front of it. -/
inductive Ligature where
  | alef
  | subjoined
  | lamed (joined : Bool)
  | ya (joined : Bool)
  | voweledYa
  | consonant (joined : Bool)
  | boundConsonant
  | tone
  | orkhonI (joined : Bool)
  deriving DecidableEq

namespace Ligature

/-- The ligature that a letter can be the last part of. Such a letter takes one
column. -/
def opened? (c : Char) : Option Ligature :=
  if arabicAlef.contains c then some .alef
  else if khmerSubjoined.contains c then some .subjoined
  else if tifinaghConsonant.contains c then some (.consonant false)
  else if lisuLastTone.contains c then some .tone
  else if c = '\u05DC' then some (.lamed false)
  else if c = '\u1A10' then some (.ya false)
  else if c = Char.ofNat 0x10C03 then some (.orkhonI false)
  else none

/-- Any transparent mark may stand between lam and alef. All other ligatures
let only joiners and selectors through. -/
def passes : Ligature → Char → Bool
  | .alef, c => invisible.contains c && !unjoining.contains c
  | _, c => unbreaking.contains c

def join : Ligature → Ligature
  | .lamed _ => .lamed true
  | .ya _ => .ya true
  | .consonant _ => .consonant true
  | .orkhonI _ => .orkhonI true
  | other => other

/-- The columns that a letter in front of the ligature adds as a part of it, and
what is open then. A letter that is drawn inside the columns of its
neighbours adds none, and one that takes its neighbour in takes a column back. -/
def extended? : Ligature → Char → Option (Int × Option Ligature)
  | .alef, c => if arabicLam.contains c then some (0, none) else none
  | .subjoined, c => if c = '\u17D2' then some (-1, none) else none
  | .lamed joined, c => if joined && c == '\u05D0' then some (0, none) else none
  | .ya joined, c => if joined && c == '\u1A17' then some (0, some .voweledYa) else none
  | .voweledYa, c => if c = '\u1A15' then some (0, none) else none
  | .consonant joined, c =>
    if c = '\u2D7F' then some (1, some .boundConsonant)
    else if joined && tifinaghConsonant.contains c then some (0, none)
    else none
  | .boundConsonant, c => if tifinaghConsonant.contains c then some (-1, none) else none
  | .tone, c => if lisuFirstTone.contains c then some (0, none) else none
  | .orkhonI joined, c => if joined && c == Char.ofNat 0x10C32 then some (0, none) else none

def preceded? (l : Ligature) (c : Char) : Option (Int × Option Ligature) :=
  if l.passes c then some (0, some (if c = joiner then l.join else l))
  else l.extended? c

end Ligature

end Anem.Text
