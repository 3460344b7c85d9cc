/-
An overview of an adventure: its rooms, items and words.
-/
import TextAdventure.Adventure
import TextAdventure.Console.Grid

namespace TextAdventure
namespace Console

open Text

/-- A text of at most 60 characters.  A longer one is cut and marked so. -/
def shorten (s : String) : String :=
  if 60 < s.length then String.ofList (s.toList.take 57) ++ "..." else s

def exitText (e : Exit) : String :=
  s!"{lower e.direction.name} -> {e.target}"

def roomRow (start : String) (r : Room) : List String :=
  [if r.name = start then s!"{r.name} (start)" else r.name, shorten r.description,
    ", ".intercalate (r.exits.map exitText)]

def itemRow (i : Item) : List String :=
  [i.name, shorten i.description, i.start.text, if i.portable then "yes" else "no",
    ", ".intercalate i.aliases]

def rooms (a : Adventure) : String :=
  let grid := Grid.mk ["Name", "Description", "Exits"] (a.world.rooms.map (roomRow a.start))
  s!"Rooms\n{grid.draw}\n\n"

/-- The items, of which nothing is said if there are none. -/
def items (a : Adventure) : String :=
  let grid := Grid.mk ["Name", "Description", "Starts in", "Portable", "Aliases"]
    (a.world.items.map itemRow)
  if a.world.items.isEmpty then "" else s!"Items\n{grid.draw}\n\n"

def words (a : Adventure) : String :=
  ", ".intercalate (a.vocabulary.words.map (·.name))

def overview (a : Adventure) : String :=
  rooms a ++ items a ++ s!"  Vocabulary: {words a}\n"
    ++ s!"  {a.actions.length} actions, {a.occurs.length} occurs\n"

/-- How much there is of everything. -/
def counts (a : Adventure) : String :=
  s!"  {a.world.rooms.length} rooms, {a.world.items.length} items, "
    ++ s!"{a.actions.length} actions, {a.occurs.length} occurs, "
    ++ s!"{a.vocabulary.words.length} words\n"

end Console
end TextAdventure
