/-
How many columns a line of text takes on a terminal.

The columns are counted from the end of the line, since what follows a character
decides whether it is drawn alone, as a part of a shared shape, or as a picture.
-/
import TextAdventure.Text.CharWidth
import TextAdventure.Text.Ligature
import TextAdventure.Text.Picture

namespace TextAdventure
namespace Text

/-- How the character before a selector is to be drawn. -/
inductive Selector where
  | text
  | picture
  | fullWidth
deriving DecidableEq, Repr

def Selector.ofChar? (c : Char) : Option Selector :=
  if c = '\uFE0E' then some .text
  else if c = '\uFE0F' then some .picture
  else if c = '\uFE01' then some .fullWidth
  else none

def isCurlyQuote (c : Char) : Bool :=
  c == '\u2018' || c == '\u2019' || c == '\u201C' || c == '\u201D'

/-- What a line begins with, as far as the character before it is concerned. -/
inductive Opening where
  | plain
  | ligature (l : Ligature)
  | picture (p : Picture)
deriving DecidableEq, Repr

namespace Opening

def ofChar (c : Char) : Opening :=
  match Ligature.ofChar? c, Picture.ofChar? c with
  | some l, _ => ligature l
  | none, some p => picture p
  | none, none => plain

def isPicture : Opening → Bool
  | picture _ => true
  | _ => false

/-- The opening, if it is a shape inside which selectors may stand. -/
def loose? : Opening → Option Opening
  | ligature l => if l.isLoose then some (ligature l) else none
  | _ => none

/-- The opening, if it is a picture that another may be joined to. -/
def joined? : Opening → Option Opening
  | picture .joined => some (picture .joined)
  | picture .joinedKey => some (picture .joinedKey)
  | _ => none

/-- What a character before the opening adds, and what the two open. -/
def before? (c : Char) : Opening → Option (Int × Opening)
  | plain => none
  | ligature l => (l.before? c).map fun (n, l) => (n, (l.map ligature).getD plain)
  | picture p => (p.before? c).map fun (n, p) => (n, picture p)

end Opening

structure Tail where
  columns : Int
  opening : Opening
  /-- The selectors before the opening, nearest to the next character first. -/
  selectors : List Selector

namespace Tail

def empty : Tail := ⟨0, .plain, []⟩

def add (t : Tail) (columns : Int) (opening : Opening) : Tail :=
  ⟨t.columns + columns, opening, []⟩

/-- A selector before the tail.  Selectors gather before a shape that they may
stand inside.  Before anything else the last one counts, and only the one that
asks for a picture leaves it open, if it is a picture to join. -/
def select (selector : Selector) (t : Tail) : Tail :=
  match t.opening.loose?, t.opening.joined?, selector with
  | some opening, _, _ => ⟨t.columns, opening, selector :: t.selectors⟩
  | none, some opening, .picture => ⟨t.columns, opening, [.picture]⟩
  | none, _, _ => ⟨t.columns, .plain, [selector]⟩

/-- The tail before a character that is no pictograph, for which the selector
that asks for a picture does not count. -/
def withoutPicture (t : Tail) : Tail :=
  if .picture ∈ t.selectors then
    ⟨t.columns, t.opening.loose?.getD .plain, t.selectors.filter (· ≠ .picture)⟩
  else t

/-- A character to which no selector applies. -/
def consUnselected (c : Char) (t : Tail) : Tail :=
  match t.opening.before? c with
  | some (columns, opening) => t.add columns opening
  | none => t.add (charWidth c) (.ofChar c)

/-- A character that is not drawn as a picture for a selector's sake. -/
def consLetter (c : Char) (t : Tail) : Tail :=
  match Selector.ofChar? c with
  | some selector => t.select selector
  | none =>
    if .text ∈ t.selectors ∧ letterable.contains c then t.add 1 .plain
    else if .fullWidth ∈ t.selectors ∧ isCurlyQuote c then t.add 2 .plain
    else t.consUnselected c

/-- A character before the tail.  A picture that is joined to another takes no
columns of its own. -/
def cons (c : Char) (t : Tail) : Tail :=
  if .picture ∈ t.selectors ∧ pictographs.contains c then
    t.add (if t.opening.isPicture then 0 else 2) (.picture .whole)
  else t.withoutPicture.consLetter c

def ofLine (line : List Char) : Tail := line.foldr cons empty

@[simp]
theorem ofLine_nil : ofLine [] = empty := rfl

@[simp]
theorem ofLine_cons (c : Char) (line : List Char) :
    ofLine (c :: line) = (ofLine line).cons c := rfl

end Tail

def columns (line : List Char) : Nat := (Tail.ofLine line).columns.toNat

end Text
end TextAdventure
