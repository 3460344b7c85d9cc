/-
Sets and maps of characters, given by tables over code points.

The tables are lists in increasing order, so that a search stops as soon as it
has passed the character it looks for.
-/

namespace TextAdventure
namespace Text

/-- A set of characters.  `flips` holds the code points at which membership
changes, starting from outside, so that a range costs two numbers. -/
structure CharSet where
  flips : List Nat

namespace CharSet

def memberFrom (inside : Bool) (n : Nat) : List Nat → Bool
  | [] => inside
  | flip :: rest => if n < flip then inside else memberFrom (!inside) n rest

def contains (s : CharSet) (c : Char) : Bool :=
  memberFrom false c.toNat s.flips

end CharSet

/-- Every `step`-th code point from `first` to `last`, sent to the code point
that lies as far from `image` as it lies from `first`. -/
structure Run where
  first : Nat
  last : Nat
  step : Nat
  image : Nat

/-- A map from characters to texts.  What is in no run and has no expansion is
sent to itself. -/
structure CharMap where
  runs : List Run
  /-- The characters whose image is more than one character. -/
  expansions : List (Nat × List Nat)

namespace CharMap

def imageIn (n : Nat) : List Run → Nat
  | [] => n
  | run :: rest =>
    if run.last < n then imageIn n rest
    else if run.first ≤ n ∧ (n - run.first) % run.step = 0 then run.image + (n - run.first)
    else n

def expansionIn (n : Nat) : List (Nat × List Nat) → Option (List Nat)
  | [] => none
  | (code, image) :: rest =>
    if n < code then none else if n = code then some image else expansionIn n rest

def apply (m : CharMap) (c : Char) : List Char :=
  match expansionIn c.toNat m.expansions with
  | some image => image.map Char.ofNat
  | none => [Char.ofNat (imageIn c.toNat m.runs)]

end CharMap

end Text
end TextAdventure
