/-
The tree of a script: its declarations as they are written, with every name
still to be looked up.
-/
import TextAdventure.Script.Token

namespace TextAdventure
namespace Script

/-- Where a script puts an item. -/
inductive Place where
  | room (name : Spanned String)
  | nowhere
  | inventory
  deriving DecidableEq

/-- Which words an action asks for. -/
inductive Pattern where
  | word (token : String)
  | any
  | none
  | list (tokens : List String)
  deriving DecidableEq

inductive Atom where
  | word (position : Spanned Int64) (pattern : Spanned Pattern)
  | unrecognized (position : Spanned Int64)
  | here (item : Spanned String)
  | carrying (item : Spanned String)
  | present (item : Spanned String)
  | inRoom (room : Spanned String)
  | exitWord (position : Spanned Int64)
  | exit (direction : String)
  | random (percent : Spanned Int64)
  | moved (item : Spanned String)
  | inPlay (item : Spanned String)
  | flag (name : String)
  | counter (name : String) (comparison : Comparison) (value : Int64)
  | string (name value : String)
  | times (limit : Spanned Int64)
  | always
  deriving DecidableEq

inductive Guard where
  | atom (atom : Atom) (span : Span)
  | not (inner : Guard) (span : Span)
  | and (parts : List Guard) (span : Span)
  | or (parts : List Guard) (span : Span)

namespace Guard

def span : Guard → Span
  | .atom _ span => span
  | .not _ span => span
  | .and _ span => span
  | .or _ span => span

/-- The same condition, said to stand elsewhere. -/
def moveTo (span : Span) : Guard → Guard
  | .atom a _ => .atom a span
  | .not inner _ => .not inner span
  | .and parts _ => .and parts span
  | .or parts _ => .or parts span

end Guard

inductive Step where
  | print (template : String)
  | println (template : String)
  | look
  | inventory
  | goWord (position : Spanned Int64)
  | go (direction : String)
  | goto (room : Spanned String)
  | get (item : Spanned String)
  | drop (item : Spanned String)
  | putHere (item : Spanned String)
  | put (item : Spanned String) (place : Place)
  | swap (a b : Spanned String)
  | destroy (item : Spanned String)
  | setFlag (name : String)
  | resetFlag (name : String)
  | setCounter (name : String) (value : Int64)
  | increment (name : String)
  | decrement (name : String)
  | resetCounter (name : String)
  | setString (name value : String)
  | quit
  deriving DecidableEq

structure ExitClause where
  direction : Spanned String
  /-- The room the exit leads to.  Without one it leads back. -/
  target : Option (Spanned String)
  deriving DecidableEq

structure RoomDecl where
  name : Spanned String
  /-- A room needs a description, but one without it is still read. -/
  description : Option String
  exits : List ExitClause
  deriving DecidableEq

inductive ItemClause where
  | otherName (name : String)
  | portable
  | inPlace (place : Place)
  deriving DecidableEq

structure ItemDecl where
  name : Spanned String
  description : Option String
  clauses : List (Spanned ItemClause)
  deriving DecidableEq

/-- A word and the tokens that mean the same. -/
structure WordDecl where
  name : Spanned String
  synonyms : List String
  deriving DecidableEq

/-- The conditions of a rule, and the steps of each of its `then` clauses. -/
structure RuleBody where
  guards : List Guard
  clauses : List (List (Spanned Step))

/-- An answer to commands.  Without a noun it asks that there be none. -/
structure ActionDecl where
  verb : Spanned Pattern
  noun : Option (Spanned Pattern)
  body : RuleBody

inductive Declaration where
  | room (decl : RoomDecl)
  | item (decl : ItemDecl)
  | word (decl : WordDecl)
  | action (decl : ActionDecl)
  /-- A rule that is tried at every turn. -/
  | occurs (body : RuleBody)
  | start (room : Spanned String)

structure Tree where
  declarations : List (Spanned Declaration)

end Script
end TextAdventure
