/-
Words set into lines that are no wider than a limit.
-/
import TextAdventure.Text.Blank
import TextAdventure.Text.Cluster
import TextAdventure.Text.Columns

namespace TextAdventure
namespace Console

open Text

structure Filling where
  /-- The lines that are full, the last one first. -/
  full : List (List Char)
  /-- The words of the line that is being filled, the last one first. -/
  words : List (List Char)
  /-- The columns that these words take, with a blank between any two. -/
  taken : Nat

namespace Filling

def empty : Filling := ⟨[], [], 0⟩

def line (f : Filling) : List Char := [' '].intercalate f.words.reverse

def close (f : Filling) : Filling := ⟨f.line :: f.full, [], 0⟩

/-- The columns that are left for one more word. -/
def room (limit : Nat) (f : Filling) : Nat :=
  if f.words.isEmpty then limit else limit - f.taken - 1

/-- Add a word.  A line with fewer than two free columns is full.  An empty
word at the start of a line leaves nothing. -/
def add (limit : Nat) (word : List Char) (f : Filling) : Filling :=
  let filled : Filling :=
    if f.words.isEmpty then ⟨f.full, if word.isEmpty then [] else [word], columns word⟩
    else ⟨f.full, word :: f.words, f.taken + 1 + columns word⟩
  if limit - 2 < filled.taken then filled.close else filled

/-- How many characters stand in the first clusters that together take no more
than `room` columns, counted on from `n`. -/
def fitting (room n : Nat) : List (List Char) → Nat
  | [] => n
  | cluster :: rest =>
    if columns cluster ≤ room then fitting (room - columns cluster) (n + cluster.length) rest
    else n

/-- Set a word into the line, or into the next one if it fits only there.  A
word that fits into no line is cut between clusters, unless that would put it
into two columns or less.  At the start of a line it is cut behind one character
at least. -/
def place (limit : Nat) (word : List Char) (f : Filling) : Filling :=
  if columns word ≤ f.room limit then f.add limit word
  else match word with
    | [] => f
    | c :: rest =>
      let n := fitting (f.room limit) 0 (clusters (c :: rest))
      if !f.words.isEmpty ∧ (columns (c :: rest) ≤ limit ∨ f.room limit ≤ 2 ∨ n = 0) then
        f.close.place limit (c :: rest)
      else (f.add limit (c :: rest.take (n - 1))).place limit (rest.drop (n - 1))
termination_by (word.length, if f.words.isEmpty then 0 else 1)
decreasing_by
  · apply Prod.Lex.right
    simp_all [close]
  · apply Prod.Lex.left
    simp only [List.length_drop, List.length_cons]
    omega

def toList (f : Filling) : List (List Char) :=
  (if f.words.isEmpty then f.full else f.close.full).reverse

end Filling

/-- A line, or if it is wider than the limit, the lines that its words fill. -/
def wrap (limit : Nat) (line : List Char) : List (List Char) :=
  if columns line ≤ limit then [line]
  else ((fields (· == ' ') line).foldl (fun f word => Filling.place limit word f) .empty).toList

end Console
end TextAdventure
