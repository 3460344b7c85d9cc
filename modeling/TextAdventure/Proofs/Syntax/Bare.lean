/-
Trees without places.

The places at which the parts of a script stand are set to nothing, so that two
trees are equal if they say the same, wherever they were read.
-/
import TextAdventure.Script.Tree

namespace TextAdventure
namespace Script

/-- Something that stands nowhere. -/
def unplaced {α : Type} (a : α) : Spanned α := ⟨a, ⟨0, 0⟩⟩

def Spanned.bare {α : Type} (s : Spanned α) : Spanned α := unplaced s.node

def Place.bare : Place → Place
  | .room name => .room name.bare
  | .nowhere => .nowhere
  | .inventory => .inventory

def Atom.bare : Atom → Atom
  | .word position pattern => .word position.bare pattern.bare
  | .unrecognized position => .unrecognized position.bare
  | .here item => .here item.bare
  | .carrying item => .carrying item.bare
  | .present item => .present item.bare
  | .inRoom room => .inRoom room.bare
  | .exitWord position => .exitWord position.bare
  | .exit direction => .exit direction
  | .random percent => .random percent.bare
  | .moved item => .moved item.bare
  | .inPlay item => .inPlay item.bare
  | .flag name => .flag name
  | .counter name comparison value => .counter name comparison value
  | .string name value => .string name value
  | .times limit => .times limit.bare
  | .always => .always

namespace Guard

mutual
def bare : Guard → Guard
  | .atom a _ => .atom a.bare ⟨0, 0⟩
  | .not inner _ => .not (bare inner) ⟨0, 0⟩
  | .and parts _ => .and (bareAll parts) ⟨0, 0⟩
  | .or parts _ => .or (bareAll parts) ⟨0, 0⟩

def bareAll : List Guard → List Guard
  | [] => []
  | g :: rest => bare g :: bareAll rest
end

theorem bareAll_eq_map (gs : List Guard) : bareAll gs = gs.map bare := by
  induction gs with
  | nil => rfl
  | cons g rest ih => rw [bareAll, ih, List.map_cons]

@[simp]
theorem bare_moveTo (span : Span) (g : Guard) : (g.moveTo span).bare = g.bare := by
  cases g <;> rfl

end Guard

def Step.bare : Step → Step
  | .goWord position => .goWord position.bare
  | .goto room => .goto room.bare
  | .get item => .get item.bare
  | .drop item => .drop item.bare
  | .putHere item => .putHere item.bare
  | .put item place => .put item.bare place.bare
  | .swap a b => .swap a.bare b.bare
  | .destroy item => .destroy item.bare
  | .print template => .print template
  | .println template => .println template
  | .look => .look
  | .inventory => .inventory
  | .go direction => .go direction
  | .setFlag name => .setFlag name
  | .resetFlag name => .resetFlag name
  | .setCounter name value => .setCounter name value
  | .increment name => .increment name
  | .decrement name => .decrement name
  | .resetCounter name => .resetCounter name
  | .setString name value => .setString name value
  | .quit => .quit

def Step.bareAll (steps : List (Spanned Step)) : List (Spanned Step) :=
  steps.map fun step => unplaced step.node.bare

def ExitClause.bare (clause : ExitClause) : ExitClause :=
  ⟨clause.direction.bare, clause.target.map Spanned.bare⟩

def RoomDecl.bare (decl : RoomDecl) : RoomDecl :=
  ⟨decl.name.bare, decl.description, decl.exits.map ExitClause.bare⟩

def ItemClause.bare : ItemClause → ItemClause
  | .otherName name => .otherName name
  | .portable => .portable
  | .inPlace place => .inPlace place.bare

def ItemDecl.bare (decl : ItemDecl) : ItemDecl :=
  ⟨decl.name.bare, decl.description, decl.clauses.map fun clause => unplaced clause.node.bare⟩

def WordDecl.bare (decl : WordDecl) : WordDecl := ⟨decl.name.bare, decl.synonyms⟩

def RuleBody.bare (body : RuleBody) : RuleBody where
  guards := body.guards.map Guard.bare
  clauses := body.clauses.map Step.bareAll

def ActionDecl.bare (decl : ActionDecl) : ActionDecl :=
  ⟨decl.verb.bare, decl.noun.map Spanned.bare, decl.body.bare⟩

def Declaration.bare : Declaration → Declaration
  | .room decl => .room decl.bare
  | .item decl => .item decl.bare
  | .word decl => .word decl.bare
  | .action decl => .action decl.bare
  | .occurs body => .occurs body.bare
  | .start name => .start name.bare

def Tree.bare (tree : Tree) : Tree :=
  ⟨tree.declarations.map fun d => unplaced d.node.bare⟩

end Script
end TextAdventure
