import Anem.Text.Emoji

/-!
The number of terminal columns that a text takes. The text is measured from its
end: what a character adds depends on what follows it, since ligatures, emoji
and selectors draw several characters as one.
-/
namespace Anem.Text

/-- What the text after a character starts with. -/
inductive Opening where
  | plain
  | ligature (l : Ligature)
  | emoji (e : EmojiTail)
  deriving DecidableEq

/-- A selector fixes the form of the character in front of it. -/
inductive Selector where
  | text
  | emoji
  deriving DecidableEq

def textSelector : Char := '\uFE0E'

def emojiSelector : Char := '\uFE0F'

namespace Opening

/-- What a selector leaves open once the character in front of it has no use
for it: a selector is transparent to ligatures and ends an emoji. -/
def released : Opening → Opening
  | .ligature l => .ligature l
  | _ => .plain

/-- What stays open behind a selector. The emoji form of a character still joins
the emoji behind it. -/
def selected : Selector → Opening → Opening
  | .emoji, .emoji .joined => .emoji .joined
  | .emoji, .emoji .joinedKeycap => .emoji .joinedKeycap
  | _, opening => opening.released

def start (c : Char) : Int × Opening :=
  match Ligature.opened? c with
  | some l => (1, .ligature l)
  | none =>
    if regionLetter.contains c then (1, .emoji (.regionLetters false))
    else if skinTone.contains c then (2, .emoji .skinTone)
    else if shownAsEmoji.contains c then (2, .emoji .whole)
    else (columns c, .plain)

/-- The columns that a character adds in front of what is open, and what it
opens. -/
def preceded (opening : Opening) (c : Char) : Int × Opening :=
  match opening with
  | .plain => start c
  | .ligature l =>
    match l.preceded? c with
    | some (n, some l') => (n, .ligature l')
    | some (n, none) => (n, .plain)
    | none => start c
  | .emoji e =>
    match e.preceded? c with
    | some (n, e') => (n, .emoji e')
    | none => start c

end Opening

/-- The measure of a text: its columns, what it starts with, and the selector in
front of that. -/
structure Extent where
  columns : Int
  opening : Opening
  selector : Option Selector

namespace Extent

def empty : Extent :=
  ⟨0, .plain, none⟩

def push (c : Char) (extent : Extent) : Extent :=
  if c = emojiSelector then ⟨extent.columns, extent.opening.selected .emoji, some .emoji⟩
  else if c = textSelector then ⟨extent.columns, extent.opening.selected .text, some .text⟩
  else
    let added := extent.opening.preceded c
    ⟨extent.columns + added.1, added.2, none⟩

/-- The extent with a character in front of it. The emoji form takes two
columns, or none where it joins the emoji behind it, and the text form one. -/
def cons (c : Char) (extent : Extent) : Extent :=
  match extent.selector with
  | none => push c extent
  | some .emoji =>
    if takesEmojiSelector c then
      match extent.opening with
      | .emoji _ => ⟨extent.columns, .emoji .whole, none⟩
      | _ => ⟨extent.columns + 2, .emoji .whole, none⟩
    else push c ⟨extent.columns, extent.opening.released, none⟩
  | some .text =>
    if narrowable.contains c then ⟨extent.columns + 1, .plain, none⟩
    else push c ⟨extent.columns, extent.opening.released, none⟩

end Extent

def extent (t : Text) : Extent :=
  t.foldr Extent.cons Extent.empty

def width (t : Text) : Nat :=
  (extent t).columns.toNat

end Anem.Text
