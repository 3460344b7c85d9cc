/-
What play shows, and how it reads as text.
-/
import TextAdventure.Text.Lines
import TextAdventure.World

namespace TextAdventure

open Text

/-- One thing shown to the player.  Rooms and inventories are shown as what
they are, so that a display may lay them out in its own way. -/
inductive Shown where
  | text (message : String)
  | room (room : Room) (items : List Item)
  | inventory (items : List Item)

namespace Listing

def items (items : List Item) : String :=
  String.join (items.map fun i => s!"  {i.description}\n")

/-- The exits that lead elsewhere. -/
def exits (r : Room) : List Exit :=
  r.exits.filter fun e => !sameName e.target r.name

def directions (exits : List Exit) : String :=
  ", ".intercalate (exits.map fun e => lower e.direction.name)

def room (r : Room) (lying : List Item) : String :=
  s!"{r.name}\n{r.description}\n"
    ++ (if lying.isEmpty then "" else "You can see:\n" ++ items lying)
    ++ (if (exits r).isEmpty then "" else s!"Exits: {directions (exits r)}\n")

def inventory (carried : List Item) : String :=
  if carried.isEmpty then "You are carrying nothing.\n"
  else "You are carrying:\n" ++ items carried

end Listing

namespace Shown

def render : Shown → String
  | .text message => message
  | .room r lying => Listing.room r lying
  | .inventory carried => Listing.inventory carried

def renderAll (shown : List Shown) : String :=
  String.join (shown.map render)

/-- A room is shown on the console line by line, and a line does not keep a
carriage return at its end. -/
def onConsole : Shown → String
  | .room r lying => String.ofList (dropReturns (Listing.room r lying).toList)
  | shown => shown.render

end Shown

end TextAdventure
