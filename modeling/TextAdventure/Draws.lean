/-
Draws from 0 to 99, which decide what a script leaves to chance.
-/

namespace TextAdventure

/-- A source of draws, and how far it has been used.  Each place of the source
gives a draw and tells at which place the next one is.  The source is a
function, so that there is one for every sequence of draws, and two plays from
the same draws can be compared. -/
structure Draws where
  draw : Nat → Nat × Nat
  place : Nat
  taken : Nat

namespace Draws

def take (d : Draws) : Nat × Draws :=
  match d.draw d.place with
  | (n, next) => (n, { d with place := next, taken := d.taken + 1 })

/-- Draws made from given bytes.  When there are no more, every draw is 0. -/
def ofBytes (bytes : List UInt8) : Draws :=
  let table := bytes.toArray
  ⟨fun n => ((table.getD n 0).toNat % 100, n + 1), 0, 0⟩

end Draws

end TextAdventure
