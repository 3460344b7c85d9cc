/-
Games: an adventure in play, with a record of every turn.
-/
import TextAdventure.Adventure
import TextAdventure.Input

namespace TextAdventure

structure Config where
  maxTurns : Option Nat
  /-- Whether the room is described before the first command. -/
  lookOnStart : Bool

/-- What one turn took in and put out. -/
structure Record where
  turn : UInt64
  input : String
  matched : Option Nat
  output : String
  /-- What cut the turn short, if anything did. -/
  fault : Option Fault
  deriving DecidableEq

structure Game where
  adventure : Adventure
  config : Config
  draws : Draws
  state : State
  /-- The records of the turns, the latest first. -/
  past : List Record

structure Turned where
  result : Except Fault Outcome
  shown : List Shown
  game : Game

/-- What comes of a run of a game over lines of input. -/
structure Ran where
  /-- How many turns were played to their end. -/
  played : Nat
  fault : Option Fault
  shown : List Shown
  remaining : List Line
  game : Game

namespace Ran

def after (shown : List Shown) (r : Ran) : Ran :=
  { r with shown := shown ++ r.shown }

end Ran

namespace Game

def new (adventure : Adventure) (config : Config) (draws : Draws) : Game where
  adventure
  config
  draws
  state := adventure.initialState
  past := []

/-- The records in the order of the turns. -/
def transcript (g : Game) : List Record := g.past.reverse

/-- Take up a game from a state, whose room must be one of the adventure. -/
def resume (adventure : Adventure) (config : Config) (draws : Draws) (state : State) :
    Except Fault Game :=
  match adventure.world.requireRoom state.room with
  | .error fault => .error fault
  | .ok _ => .ok { new adventure config draws with state }

def opening (g : Game) : Except Fault (List Shown) :=
  if g.config.lookOnStart then
    match g.adventure.world.requireRoom g.state.room with
    | .error fault => .error fault
    | .ok room => .ok [.room room (g.state.itemsHere g.adventure.world)]
  else .ok []

/-- The record of a turn that left `state`.  A turn that fails has no outcome
to take its number from, so the state gives it. -/
def recordOf (command : Command) (state : State) (shown : List Shown) :
    Except Fault Outcome → Record
  | .ok outcome =>
    ⟨outcome.turn, command.text, outcome.matched, Shown.renderAll shown, none⟩
  | .error fault => ⟨state.turns, command.text, none, Shown.renderAll shown, some fault⟩

/-- Play a turn and record it.  A turn that fails is recorded with what it
showed, since what it did stays done.  A game that has ended plays no turn and
records none. -/
def takeTurn (g : Game) (command : Command) : Turned :=
  match g.adventure.takeTurn command ⟨g.state, [], g.draws⟩ with
  | (.error .gameOver, scene) => ⟨.error .gameOver, scene.shown, g⟩
  | (result, scene) =>
    ⟨result, scene.shown, { g with
      state := scene.state
      draws := scene.draws
      past := recordOf command scene.state scene.shown result :: g.past }⟩

/-- Whether a run that has played so many turns stops here. -/
def stops (g : Game) (played : Nat) : Bool :=
  !g.state.running || g.config.maxTurns.any (· ≤ played)

/-- Continue a run that has played so many turns.  Whether it stops is asked
before a line is read, so a line is left to the next run. -/
def runFrom (input : Input) (g : Game) (played : Nat) : List Line → Ran
  | [] =>
    if g.stops played then ⟨played, none, [], [], g⟩ else ⟨played, none, input.prompt, [], g⟩
  | line :: rest =>
    if g.stops played then ⟨played, none, [], line :: rest, g⟩
    else match line with
      | .error cause => ⟨played, some (.unreadable cause), input.prompt, rest, g⟩
      | .ok text =>
        match input.take text with
        | none => (runFrom input g played rest).after input.prompt
        | some (echo, command) =>
          let turned := g.takeTurn command
          let shown := input.prompt ++ echo ++ turned.shown
          match turned.result with
          | .ok _ => (runFrom input turned.game (played + 1) rest).after shown
          | .error .gameOver => ⟨played, none, shown, rest, turned.game⟩
          | .error fault => ⟨played, some fault, shown, rest, turned.game⟩

/-- Play until the game ends, the input ends, or the run has played as many
turns as it may. -/
def run (input : Input) (g : Game) (lines : List Line) : Ran :=
  runFrom input g 0 lines

end Game

end TextAdventure
