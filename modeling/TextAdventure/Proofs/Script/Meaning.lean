/-
What the rules of a script mean as they are written.

The meaning is read off the tree, without the rules that are made of it: a name
stands for the declaration that is the same in lower case, a token for the first
declared word that accepts it, conditions are evaluated from left to right as
far as they decide, and of several clauses the last one is performed.
-/
import TextAdventure.Rule
import TextAdventure.Script.Lexicon

namespace TextAdventure

open Text

def Word.isNone : Word → Bool
  | .none => true
  | _ => false

namespace Script

/-! ## Names and words -/

/-- What the names and the tokens of a script stand for. -/
structure Sense where
  room : String → String
  item : String → String
  word : String → NamedWord

def sameInLower (a b : String) : Bool := lower b == lower a

/-- The declared name that is the same in lower case. -/
def declaredAs (names : List String) (name : String) : String :=
  (names.find? (sameInLower name)).getD name

namespace Declaration

def roomName? : Declaration → Option String
  | .room decl => some decl.name.node
  | _ => none

def itemName? : Declaration → Option String
  | .item decl => some decl.name.node
  | _ => none

def action? : Declaration → Option ActionDecl
  | .action decl => some decl
  | _ => none

def occurs? : Declaration → Option RuleBody
  | .occurs body => some body
  | _ => none

end Declaration

namespace Tree

def roomNames (tree : Tree) : List String :=
  tree.declarations.filterMap (·.node.roomName?)

def itemNames (tree : Tree) : List String :=
  tree.declarations.filterMap (·.node.itemName?)

def actions (tree : Tree) : List ActionDecl :=
  tree.declarations.filterMap (·.node.action?)

def occurs (tree : Tree) : List RuleBody :=
  tree.declarations.filterMap (·.node.occurs?)

def sense (tree : Tree) : Sense where
  room := declaredAs tree.roomNames
  item := declaredAs tree.itemNames
  word := wordFor tree.lexicon

end Tree

/-! ## Conditions -/

def amount (n : Spanned Int64) : Nat := n.node.toInt.toNat

/-- Whether what happens so many times in a hundred happens now.  Nothing is
drawn for what happens never or always. -/
def happens (percent : Nat) (draws : Draws) : Bool × Draws :=
  if percent = 0 then (false, draws)
  else if percent < 100 then (decide (draws.take.1 < percent), draws.take.2)
  else (true, draws)

/-- Whether a pattern takes the word at its position. -/
def Pattern.takes (sense : Sense) (w : Word) : Pattern → Bool
  | .word token => w.fits (.named (sense.word token))
  | .any => !w.isNone
  | .none => w.isNone
  | .list tokens => tokens.any fun token => w.fits (.named (sense.word token))

/-- Whether the room of a name has an exit in a direction. -/
def leads (world : World) (room : String) (direction : Word) : Bool :=
  (world.room? room).any fun r => r.exits.any (·.direction.fits direction)

def Atom.holds (sense : Sense) (v : Scope) (s : State) : Atom → Draws → Bool × Draws
  | .word position pattern, draws =>
    (pattern.node.takes sense (v.command.word (amount position)), draws)
  | .unrecognized position, draws =>
    ((v.command.word (amount position)).isUnrecognized, draws)
  | .here item, draws => (s.isHere (sense.item item.node), draws)
  | .carrying item, draws => (s.isCarried (sense.item item.node), draws)
  | .present item, draws =>
    (s.isHere (sense.item item.node) || s.isCarried (sense.item item.node), draws)
  | .inRoom room, draws => (sameName s.room (sense.room room.node), draws)
  | .exitWord position, draws =>
    (leads v.world s.room (v.command.word (amount position)), draws)
  | .exit direction, draws => (leads v.world s.room (.named (sense.word direction)), draws)
  | .random percent, draws => happens (amount percent) draws
  | .moved item, draws => (s.hasMoved v.world (sense.item item.node), draws)
  | .inPlay item, draws => (s.inPlay (sense.item item.node), draws)
  | .flag name, draws => (s.flag name, draws)
  | .counter name comparison value, draws => (comparison.holds (s.counter name) value, draws)
  | .string name value, draws => (s.string? name == some value, draws)
  | .times limit, draws => (decide (s.turns.toNat ≤ amount limit), draws)
  | .always, draws => (true, draws)

namespace Guard

mutual
def holds (sense : Sense) (v : Scope) (s : State) : Guard → Draws → Bool × Draws
  | .atom a _, draws => a.holds sense v s draws
  | .not inner _, draws =>
    let (holds, draws) := holds sense v s inner draws
    (!holds, draws)
  | .and parts _, draws => allHold sense v s parts draws
  | .or parts _, draws => someHold sense v s parts draws

def allHold (sense : Sense) (v : Scope) (s : State) : List Guard → Draws → Bool × Draws
  | [], draws => (true, draws)
  | g :: rest, draws =>
    match holds sense v s g draws with
    | (true, draws) => allHold sense v s rest draws
    | (false, draws) => (false, draws)

def someHold (sense : Sense) (v : Scope) (s : State) : List Guard → Draws → Bool × Draws
  | [], draws => (false, draws)
  | g :: rest, draws =>
    match holds sense v s g draws with
    | (true, draws) => (true, draws)
    | (false, draws) => someHold sense v s rest draws
end

end Guard

/-! ## Steps -/

def Place.location (sense : Sense) : Place → Location
  | .room name => .room (sense.room name.node)
  | .nowhere => .nowhere
  | .inventory => .inventory

/-- The state after a step and what it shows, or why it cannot be performed. -/
def Step.apply (sense : Sense) (world : World) (command : Command) (s : State) :
    Step → Except Fault (State × List Shown)
  | .print template => .ok (s, [.text (command.fill template)])
  | .println template => .ok (s, [.text (command.fill template ++ "\n")])
  | .look => (world.requireRoom s.room).map fun room => (s, [.room room (s.itemsHere world)])
  | .inventory => .ok (s, [.inventory (s.itemsAt world .inventory)])
  | .goWord position =>
    (Effect.travel world s (command.word (amount position))).map fun s => (s, [])
  | .go direction =>
    (Effect.travel world s (.named (sense.word direction))).map fun s => (s, [])
  | .goto room =>
    (world.requireRoom (sense.room room.node)).map fun room => (s.enter room.name, [])
  | .get item => (s.moveItem world (sense.item item.node) .inventory).map fun s => (s, [])
  | .drop item => (s.moveItem world (sense.item item.node) (.room s.room)).map fun s => (s, [])
  | .putHere item =>
    (s.moveItem world (sense.item item.node) (.room s.room)).map fun s => (s, [])
  | .put item place =>
    (s.moveItem world (sense.item item.node) (place.location sense)).map fun s => (s, [])
  | .swap a b =>
    (s.swapItems world (sense.item a.node) (sense.item b.node)).map fun s => (s, [])
  | .destroy item => (s.moveItem world (sense.item item.node) .nowhere).map fun s => (s, [])
  | .setFlag name => .ok (s.setFlag name true, [])
  | .resetFlag name => .ok (s.setFlag name false, [])
  | .setCounter name value => .ok (s.setCounter name value, [])
  | .increment name => .ok (s.increment name, [])
  | .decrement name => .ok (s.decrement name, [])
  | .resetCounter name => .ok (s.setCounter name 0, [])
  | .setString name value => .ok (s.setString name value, [])
  | .quit => .ok (s.quit, [])

/-- Perform steps as long as they succeed.  Those before one that fails stay
done. -/
def performSteps (sense : Sense) (v : Scope) (scene : Scene) : List Step → Option Fault × Scene
  | [] => (none, scene)
  | step :: rest =>
    match step.apply sense v.world v.command scene.state with
    | .error fault => (some fault, scene)
    | .ok (state, shown) =>
      performSteps sense v { scene with state, shown := scene.shown ++ shown } rest

/-- Perform steps, or leave them, as conditions came out. -/
def follow (sense : Sense) (v : Scope) (scene : Scene) (steps : List Step) :
    Bool × Draws → Except Fault Bool × Scene
  | (false, draws) => (.ok false, { scene with draws })
  | (true, draws) =>
    match performSteps sense v { scene with draws } steps with
    | (none, scene) => (.ok true, scene)
    | (some fault, scene) => (.error fault, scene)

/-! ## Rules -/

namespace RuleBody

def holds (sense : Sense) (v : Scope) (s : State) (body : RuleBody) (draws : Draws) :
    Bool × Draws :=
  Guard.allHold sense v s body.guards draws

/-- The steps of the last clause, which takes the place of those before it. -/
def steps (body : RuleBody) : List Step :=
  (body.clauses.getLast?.getD []).map (·.node)

def run (sense : Sense) (v : Scope) (scene : Scene) (body : RuleBody) :
    Except Fault Bool × Scene :=
  follow sense v scene body.steps (body.holds sense v scene.state scene.draws)

end RuleBody

namespace ActionDecl

/-- Whether a second word is asked for.  An action without a noun asks that
there be none. -/
def takesNoun (sense : Sense) (w : Word) (decl : ActionDecl) : Bool :=
  match decl.noun with
  | some noun => noun.node.takes sense w
  | none => w.isNone

def answers (sense : Sense) (command : Command) (decl : ActionDecl) : Bool :=
  decl.verb.node.takes sense (command.word 1) && decl.takesNoun sense (command.word 2)

def holds (sense : Sense) (v : Scope) (s : State) (decl : ActionDecl) (draws : Draws) :
    Bool × Draws :=
  if decl.answers sense v.command then decl.body.holds sense v s draws else (false, draws)

def run (sense : Sense) (v : Scope) (scene : Scene) (decl : ActionDecl) :
    Except Fault Bool × Scene :=
  follow sense v scene decl.body.steps (decl.holds sense v scene.state scene.draws)

end ActionDecl

end Script
end TextAdventure
