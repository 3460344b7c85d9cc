/-
Effects: the steps that a rule performs when it applies.
-/
import TextAdventure.Listing
import TextAdventure.State
import TextAdventure.Template

namespace TextAdventure

open Text

inductive Effect where
  | print (template : String)
  | println (template : String)
  | look
  | inventory
  | go (direction : Word)
  /-- Leave in the direction of the word at `position`. -/
  | goWord (position : Nat)
  | goto (room : String)
  | get (item : String)
  | drop (item : String)
  | putHere (item : String)
  | put (item : String) (place : Location)
  | swap (a b : String)
  | destroy (item : String)
  | setFlag (name : String)
  | resetFlag (name : String)
  | setCounter (name : String) (value : Int64)
  | increment (name : String)
  | decrement (name : String)
  | resetCounter (name : String)
  | setString (name value : String)
  | quit

namespace Effect

/-- Leave the room by the first exit in a direction. -/
def travel (world : World) (s : State) (direction : Word) : Except Fault State :=
  match world.requireRoom s.room with
  | .error fault => .error fault
  | .ok room =>
    match room.exitTowards direction with
    | none => .error (.noExit room.name (lower direction.name))
    | some exit => .ok (s.enter exit.target)

def unseen : Except Fault State → Except Fault (State × List Shown)
  | .ok s => .ok (s, [])
  | .error fault => .error fault

/-- The state after an effect and what it shows.  An effect that fails leaves
no state, since it has done nothing. -/
def apply (world : World) (command : Command) (s : State) :
    Effect → Except Fault (State × List Shown)
  | .print template => .ok (s, [.text (command.fill template)])
  | .println template => .ok (s, [.text (command.fill template ++ "\n")])
  | .look =>
    match world.requireRoom s.room with
    | .error fault => .error fault
    | .ok room => .ok (s, [.room room (s.itemsHere world)])
  | .inventory => .ok (s, [.inventory (s.itemsAt world .inventory)])
  | .go direction => unseen (travel world s direction)
  | .goWord position => unseen (travel world s (command.word position))
  | .goto room =>
    match world.requireRoom room with
    | .error fault => .error fault
    | .ok r => .ok (s.enter r.name, [])
  | .get item => unseen (s.moveItem world item .inventory)
  | .drop item => unseen (s.moveItem world item (.room s.room))
  | .putHere item => unseen (s.moveItem world item (.room s.room))
  | .put item place => unseen (s.moveItem world item place)
  | .swap a b => unseen (s.swapItems world a b)
  | .destroy item => unseen (s.moveItem world item .nowhere)
  | .setFlag name => .ok (s.setFlag name true, [])
  | .resetFlag name => .ok (s.setFlag name false, [])
  | .setCounter name value => .ok (s.setCounter name value, [])
  | .increment name => .ok (s.increment name, [])
  | .decrement name => .ok (s.decrement name, [])
  | .resetCounter name => .ok (s.setCounter name 0, [])
  | .setString name value => .ok (s.setString name value, [])
  | .quit => .ok (s.quit, [])

end Effect

end TextAdventure
