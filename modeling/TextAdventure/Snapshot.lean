/-
Snapshots: the state of a game as a text from which it can be taken up again.
-/
import TextAdventure.Json.Read
import TextAdventure.Json.Write
import TextAdventure.State

namespace TextAdventure
namespace Snapshot

/-! ## Writing -/

/-- A room is told from the two places that are no rooms by its form, so that
a room may have the name of either. -/
def ofLocation : Location → Json
  | .room name => .object [(Json.Piece.ofText "room", .text name)]
  | .inventory => .text "inventory"
  | .nowhere => .text "nowhere"

def ofTable {α : Type} (value : α → Json) (t : Table α) : Json :=
  .object (t.entries.map fun entry => (Json.Piece.ofText entry.1, value entry.2))

def fieldNames : List String :=
  ["current_room", "item_locations", "flags", "counters", "strings", "running", "turns"]

def values (s : State) : List Json :=
  [.text s.room, ofTable ofLocation s.places, ofTable .bool s.flags,
    ofTable (fun n => .int n.toInt) s.counters, ofTable .text s.strings, .bool s.running,
    .int s.turns.toNat]

def ofState (s : State) : Json :=
  .object ((fieldNames.map Json.Piece.ofText).zip (values s))

/-! ## Reading -/

/-- A place is a word, or an object with that word for its only key. -/
def location? : Json → Option Location
  | .object [(key, value)] =>
    match Json.Piece.text? key, value with
    | some "room", value => value.text?.map .room
    | some "inventory", .null => some .inventory
    | some "nowhere", .null => some .nowhere
    | _, _ => none
  | j =>
    match j.text? with
    | some "inventory" => some .inventory
    | some "nowhere" => some .nowhere
    | _ => none

def member? {α : Type} (value? : Json → Option α) (m : List Json.Piece × Json) :
    Option (String × α) := do
  return (← Json.Piece.text? m.1, ← value? m.2)

/-- A table from an object.  Of two members of one key the later counts. -/
def table? {α : Type} (value? : Json → Option α) : Json → Option (Table α)
  | .object members => (members.mapM (member? value?)).map Table.ofList
  | _ => none

/-- The value of a field that is given once. -/
def field? (fields : List (String × Json)) (name : String) : Option Json :=
  match fields.filter (·.1 == name) with
  | [(_, value)] => some value
  | _ => none

/-- The values of the fields: all in order, or each under its name.  What has
another name is passed over. -/
def values? : Json → Option (List Json)
  | .array items => some items
  | .object members => do
    let fields ← members.mapM (member? some)
    fieldNames.mapM (field? fields)
  | _ => none

def state? (j : Json) : Option State := do
  match ← values? j with
  | [room, places, flags, counters, strings, running, turns] =>
    return {
      room := ← room.text?
      places := ← table? location? places
      flags := ← table? Json.bool? flags
      counters := ← table? Json.int64? counters
      strings := ← table? Json.text? strings
      running := ← running.bool?
      turns := ← turns.uint64? }
  | _ => none

end Snapshot

namespace State

def toSnapshot (s : State) : String := (Snapshot.ofState s).toText

/-- The state that a snapshot holds.  A text that is no snapshot holds none. -/
def ofSnapshot? (text : String) : Option State :=
  (Json.ofText? text).bind Snapshot.state?

end State

end TextAdventure
