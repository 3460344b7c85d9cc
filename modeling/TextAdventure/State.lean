/-
The state of a game: everything that a turn can change.
-/
import TextAdventure.World

namespace TextAdventure

open Text

structure State where
  /-- The name of the room the player is in. -/
  room : String
  places : Table Location
  flags : Table Bool
  counters : Table Int64
  strings : Table String
  running : Bool
  /-- How many turns have been started.  The count belongs to the state, so
  that a game taken up again goes on counting. -/
  turns : UInt64
  deriving DecidableEq

namespace State

/-- The state of a new game: the player in the start room and every item where
it starts. -/
def initial (world : World) (start : String) : State where
  room := start
  places := Table.ofList (world.items.map fun i => (i.name, i.start))
  flags := .empty
  counters := .empty
  strings := .empty
  running := true
  turns := 0

/-! ## Items -/

/-- Where an item is.  One that the state does not mention is nowhere. -/
def placeOf (s : State) (item : String) : Location :=
  (s.places.find? item).getD .nowhere

def isHere (s : State) (item : String) : Bool :=
  (s.placeOf item).isRoom s.room

def isCarried (s : State) (item : String) : Bool :=
  s.placeOf item == .inventory

def inPlay (s : State) (item : String) : Bool :=
  s.placeOf item != .nowhere

/-- Whether an item is elsewhere than where it starts.  No other reader of
places asks the world for the item, and this one does in any case. -/
def hasMoved (s : State) (world : World) (item : String) : Bool :=
  match world.item? item with
  | some i => s.placeOf i.name != i.start
  | none => false

def itemsAt (s : State) (world : World) (place : Location) : List Item :=
  world.items.filter fun i => s.placeOf i.name == place

def itemsHere (s : State) (world : World) : List Item :=
  world.items.filter fun i => s.isHere i.name

def setPlace (s : State) (item : String) (place : Location) : State :=
  { s with places := s.places.insert item place }

/-- Put an item somewhere else, unless it is fixed and the player would carry
it. -/
def moveItem (s : State) (world : World) (item : String) (place : Location) :
    Except Fault State :=
  match world.requireItem item with
  | .error fault => .error fault
  | .ok i =>
    if place = .inventory ∧ i.portable = false then .error (.notPortable i.name)
    else .ok (s.setPlace i.name place)

/-- Put `a` out of play and `b` where `a` was. -/
def swapItems (s : State) (world : World) (a b : String) : Except Fault State :=
  match world.requireItem a with
  | .error fault => .error fault
  | .ok first =>
    match world.requireItem b with
    | .error fault => .error fault
    | .ok second =>
      let place := s.placeOf first.name
      if place = .inventory ∧ second.portable = false then .error (.notPortable second.name)
      else .ok ((s.setPlace first.name .nowhere).setPlace second.name place)

/-! ## Flags, counters and strings -/

def flag (s : State) (name : String) : Bool :=
  (s.flags.find? name).getD false

def setFlag (s : State) (name : String) (value : Bool) : State :=
  { s with flags := s.flags.insert name value }

def counter (s : State) (name : String) : Int64 :=
  (s.counters.find? name).getD 0

def setCounter (s : State) (name : String) (value : Int64) : State :=
  { s with counters := s.counters.insert name value }

/-- Count one up.  A counter stops at the greatest number it can hold. -/
def increment (s : State) (name : String) : State :=
  let n := s.counter name
  s.setCounter name (if n = Int64.maxValue then n else n + 1)

/-- Count one down.  A counter stops at the least number it can hold. -/
def decrement (s : State) (name : String) : State :=
  let n := s.counter name
  s.setCounter name (if n = Int64.minValue then n else n - 1)

def string? (s : State) (name : String) : Option String :=
  s.strings.find? name

def setString (s : State) (name value : String) : State :=
  { s with strings := s.strings.insert name value }

/-! ## The course of a game -/

def enter (s : State) (room : String) : State :=
  { s with room }

def quit (s : State) : State :=
  { s with running := false }

def beginTurn (s : State) : State :=
  { s with turns := s.turns + 1 }

end State

end TextAdventure
