/-
Tables drawn with characters.  A cell may have several lines, and a column is
as wide as its widest line.
-/
import TextAdventure.Console.Filling

namespace TextAdventure
namespace Console

open Text

structure Grid where
  header : List String
  rows : List (List String)

namespace Grid

/-- The most that a column is drawn wide, and the most that a line of text takes
in it.  The margins of such a line stand out. -/
def widest : Nat := 65535

def lines (cell : String) : List (List Char) :=
  fields (· == '\n') cell.toList

def cellWidth (cell : String) : Nat :=
  ((lines cell).map columns).foldl max 0

/-- The widths of the columns, which the widest cells decide. -/
def widths (g : Grid) : List Nat :=
  (g.rows.foldl (fun widths row => List.zipWith max widths (row.map cellWidth))
    (g.header.map cellWidth)).map (min widest)

/-- How wide a column is drawn, with a margin on both sides. -/
def drawn (width : Nat) : Nat := min (width + 2) widest

def spaces (n : Nat) : String := "".pushn ' ' n

def padded (width : Nat) (line : List Char) : String :=
  s!" {String.ofList line}{spaces (width - columns line)} "

def cellLines (width : Nat) (cell : String) : List String :=
  ((lines cell).flatMap (wrap width)).map (padded width)

/-- The lines of a row.  A cell that has fewer of them than the others is blank
below. -/
def rowLines (widths : List Nat) (row : List String) : List String :=
  let cells := List.zipWith (fun width cell => (width, (cellLines width cell).toArray)) widths row
  let height := (cells.map fun cell => cell.2.size).foldl max 0
  (List.range height).map fun n =>
    "|" ++ "|".intercalate (cells.map fun (width, lines) => lines.getD n (spaces (drawn width))) ++ "|"

def dashes (widths : List Nat) : String :=
  "+".intercalate (widths.map fun width => "".pushn '-' (drawn width))

def border (widths : List Nat) : String := s!"+{dashes widths}+"

def rule (widths : List Nat) : String := s!"|{dashes widths}|"

/-- The line below the header, which the columns do not divide. -/
def headerRule (widths : List Nat) : String :=
  "+" ++ "".pushn '=' (dashes widths).length ++ "+"

def draw (g : Grid) : String :=
  let widths := g.widths
  let body := (g.rows.map (rowLines widths)).intersperse [rule widths]
  "\n".intercalate ([border widths] ++ rowLines widths g.header ++ [headerRule widths]
    ++ body.flatten ++ [border widths])

end Grid

end Console
end TextAdventure
