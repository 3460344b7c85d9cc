/-
Adventures, and the course of one turn.
-/
import TextAdventure.Rule
import TextAdventure.Vocabulary

namespace TextAdventure

/-- A world with its words and rules.  The start is given as its room is
declared. -/
structure Adventure where
  world : World
  vocabulary : Vocabulary
  /-- The rules that are tried at every turn. -/
  occurs : List Rule
  /-- The rules that answer commands, in the order in which they are tried. -/
  actions : List Rule
  start : String
  start_mem : ∃ r ∈ world.rooms, r.name = start

structure Outcome where
  turn : UInt64
  /-- How many of the rules that are tried at every turn applied. -/
  occurred : Nat
  /-- The index of the action that answered the command. -/
  matched : Option Nat
  running : Bool
  deriving DecidableEq

namespace Adventure

/-- An adventure that starts in the room of the given name, in any case. -/
def new (world : World) (vocabulary : Vocabulary) (occurs actions : List Rule) (start : String) :
    Except Fault Adventure :=
  match h : world.room? start with
  | none => .error (.unknownStart start)
  | some room => .ok {
      world, vocabulary, occurs, actions
      start := room.name
      start_mem := ⟨room, List.mem_of_find?_eq_some h, rfl⟩ }

def initialState (a : Adventure) : State :=
  .initial a.world a.start

/-- Try every rule, and count those that apply.  Only a failure ends this
early; that the game has ended does not. -/
def tryOccurs (v : Scope) : List Rule → Scene → Except Fault Nat × Scene
  | [], scene => (.ok 0, scene)
  | r :: rest, scene =>
    match r.run v scene with
    | (.error fault, scene) => (.error fault, scene)
    | (.ok applied, scene) =>
      match tryOccurs v rest scene with
      | (.error fault, scene) => (.error fault, scene)
      | (.ok count, scene) => (.ok (applied.toNat + count), scene)

/-- Try rules until one applies, and answer where it stands, counted from
`index`. -/
def tryActions (v : Scope) (index : Nat) : List Rule → Scene → Except Fault (Option Nat) × Scene
  | [], scene => (.ok none, scene)
  | r :: rest, scene =>
    match r.run v scene with
    | (.error fault, scene) => (.error fault, scene)
    | (.ok true, scene) => (.ok (some index), scene)
    | (.ok false, scene) => tryActions v (index + 1) rest scene

/-- Play a turn.  The rules for every turn see the empty command; the command
is answered if they leave the game running. -/
def takeTurn (a : Adventure) (command : Command) (scene : Scene) :
    Except Fault Outcome × Scene :=
  if scene.state.running then
    let begun := { scene with state := scene.state.beginTurn }
    match tryOccurs ⟨a.world, .empty⟩ a.occurs begun with
    | (.error fault, scene) => (.error fault, scene)
    | (.ok occurred, scene) =>
      if scene.state.running then
        match tryActions ⟨a.world, command⟩ 0 a.actions scene with
        | (.error fault, scene) => (.error fault, scene)
        | (.ok matched, scene) =>
          (.ok ⟨begun.state.turns, occurred, matched, scene.state.running⟩, scene)
      else (.ok ⟨begun.state.turns, occurred, none, false⟩, scene)
  else (.error .gameOver, scene)

end Adventure

end TextAdventure
