/-
The world of an adventure: its rooms and items, which play does not change.
-/
import TextAdventure.Fault
import TextAdventure.Text.Lowercase
import TextAdventure.Word

namespace TextAdventure

open Text

inductive Location where
  | room (name : String)
  | inventory
  | nowhere
  deriving DecidableEq

namespace Location

/-- Whether this is the room of the given name, in any case of A to Z. -/
def isRoom (name : String) : Location → Bool
  | .room r => sameName r name
  | _ => false

def text : Location → String
  | .room name => name
  | .inventory => "inventory"
  | .nowhere => "nowhere"

end Location

structure Exit where
  direction : Word
  /-- The name of the room it leads to, which may be the room it leaves. -/
  target : String

structure Room where
  name : String
  description : String
  exits : List Exit

namespace Room

/-- The first exit whose direction fits the given word. -/
def exitTowards (r : Room) (direction : Word) : Option Exit :=
  r.exits.find? (·.direction.fits direction)

def hasExit (r : Room) (direction : Word) : Bool :=
  (r.exitTowards direction).isSome

def same (r other : Room) : Bool := sameName r.name other.name

/-- What a room is looked up by: its name in lower case. -/
def key (r : Room) : String := lower r.name

end Room

structure Item where
  name : String
  description : String
  portable : Bool
  aliases : List String
  start : Location

namespace Item

/-- An item that cannot be carried and is not in play. -/
def fixed (name description : String) : Item where
  name
  description
  portable := false
  aliases := []
  start := .nowhere

/-- Give a further name to an item.  What has one can be carried. -/
def withAlias (i : Item) (name : String) : Item :=
  { i with aliases := i.aliases ++ [name], portable := true }

def same (i other : Item) : Bool := sameName i.name other.name

def key (i : Item) : String := lower i.name

end Item

/-- Rooms and items in the order of their declaration.  No two rooms have one
key, nor have two items, and what starts with the player can be carried. -/
structure World where
  rooms : List Room
  items : List Item
  rooms_nodup : (rooms.map Room.key).Nodup
  items_nodup : (items.map Item.key).Nodup
  carried_portable : ∀ i ∈ items, i.start = .inventory → i.portable = true

namespace World

def empty : World where
  rooms := []
  items := []
  rooms_nodup := .nil
  items_nodup := .nil
  carried_portable := by simp

instance : Inhabited World := ⟨empty⟩

def addRoom (w : World) (r : Room) : Except Fault World :=
  if h : r.key ∈ w.rooms.map Room.key then .error (.duplicateRoom r.name)
  else .ok { w with
    rooms := w.rooms ++ [r]
    rooms_nodup := by
      rw [List.map_append, List.nodup_append]
      refine ⟨w.rooms_nodup, by simp, fun a ha b hb => ?_⟩
      rw [List.map_singleton, List.mem_singleton] at hb
      exact fun hab => h (hb ▸ hab ▸ ha) }

/-- Add an item.  That its name is taken is found out before it is asked
whether the player may start with it. -/
def addItem (w : World) (i : Item) : Except Fault World :=
  if h : i.key ∈ w.items.map Item.key then .error (.duplicateItem i.name)
  else if hc : i.start = .inventory ∧ i.portable = false then .error (.notPortable i.name)
  else .ok { w with
    items := w.items ++ [i]
    items_nodup := by
      rw [List.map_append, List.nodup_append]
      refine ⟨w.items_nodup, by simp, fun a ha b hb => ?_⟩
      rw [List.map_singleton, List.mem_singleton] at hb
      exact fun hab => h (hb ▸ hab ▸ ha)
    carried_portable := by
      intro j hj hstart
      rcases List.mem_append.1 hj with hj | hj
      · exact w.carried_portable j hj hstart
      · rw [List.mem_singleton] at hj
        subst hj
        exact (Bool.eq_false_or_eq_true j.portable).resolve_right fun hp => hc ⟨hstart, hp⟩ }

/-- Add rooms one after the other, as long as each can be added. -/
def addRooms (w : World) : List Room → Except Fault World
  | [] => .ok w
  | r :: rest =>
    match w.addRoom r with
    | .ok w => w.addRooms rest
    | .error fault => .error fault

def addItems (w : World) : List Item → Except Fault World
  | [] => .ok w
  | i :: rest =>
    match w.addItem i with
    | .ok w => w.addItems rest
    | .error fault => .error fault

/-- The room of a name, in any case. -/
def room? (w : World) (name : String) : Option Room :=
  w.rooms.find? (·.key == lower name)

def item? (w : World) (name : String) : Option Item :=
  w.items.find? (·.key == lower name)

def requireRoom (w : World) (name : String) : Except Fault Room :=
  match w.room? name with
  | some r => .ok r
  | none => .error (.unknownRoom name)

def requireItem (w : World) (name : String) : Except Fault Item :=
  match w.item? name with
  | some i => .ok i
  | none => .error (.unknownItem name)

end World

end TextAdventure
