/-
Rules: conditions that guard a list of effects.
-/
import TextAdventure.Condition
import TextAdventure.Effect

namespace TextAdventure

/-- When every condition holds, every effect is performed in order. -/
structure Rule where
  conditions : List Condition
  effects : List Effect

namespace Rule

def empty : Rule := ⟨[], []⟩

instance : Inhabited Rule := ⟨empty⟩

/-- Add a condition.  One that the rule already has is not added again, unless
draws decide it: the same chance taken twice is two chances. -/
def when (r : Rule) (c : Condition) : Rule :=
  if c.mayDraw || !r.conditions.any (·.same c) then
    { r with conditions := r.conditions ++ [c] }
  else r

/-- Give the rule this effect in place of those it has. -/
def restart (r : Rule) (e : Effect) : Rule :=
  { r with effects := [e] }

def append (r : Rule) (e : Effect) : Rule :=
  { r with effects := r.effects ++ [e] }

/-- Ask for the words of a pattern from position `p` on. -/
def whenWords (r : Rule) (p : Nat) : List Word → Rule
  | [] => r
  | w :: rest => (r.when (.word p w)).whenWords (p + 1) rest

def on (pattern : List Word) : Rule :=
  empty.whenWords 1 pattern

end Rule

/-- How far a turn has come. -/
structure Scene where
  state : State
  shown : List Shown
  draws : Draws

namespace Scene

/-- Perform effects as long as they succeed.  Those before one that fails stay
done. -/
def perform (world : World) (command : Command) (scene : Scene) :
    List Effect → Option Fault × Scene
  | [] => (none, scene)
  | e :: rest =>
    match e.apply world command scene.state with
    | .error fault => (some fault, scene)
    | .ok (state, shown) =>
      { scene with state, shown := scene.shown ++ shown }.perform world command rest

end Scene

namespace Rule

def isSatisfied (r : Rule) (v : Scope) (s : State) (draws : Draws) : Bool × Draws :=
  Condition.allHold v s r.conditions draws

/-- Run a rule, answering whether it applied. -/
def run (r : Rule) (v : Scope) (scene : Scene) : Except Fault Bool × Scene :=
  match r.isSatisfied v scene.state scene.draws with
  | (false, draws) => (.ok false, { scene with draws })
  | (true, draws) =>
    match { scene with draws }.perform v.world v.command r.effects with
    | (none, scene) => (.ok true, scene)
    | (some fault, scene) => (.error fault, scene)

end Rule

end TextAdventure
