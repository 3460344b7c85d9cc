/-
The grammar of scripts, as the phrases that it has.

A phrase is a derivation: it says which rule was taken at each place, and so
which tokens were written, even where the tree of a script says it no longer.
What two phrases of one kind have in common is given by `tokens`, how they are
spelled, and by `tree`, what they mean.

    script      := decl*
    decl        := room | item | word | action | occurs | start
    room        := "room" NAME STRING? exit*
    exit        := "exit" IDENT ("->" (NAME | "self"))?
    item        := "item" NAME STRING? item_clause*
    item_clause := "alias" STRING | "portable" | "in" (NAME | "nowhere" | "inventory")
    word        := "word" IDENT STRING*
    action      := "action" pattern pattern? when? then+
    occurs      := "occurs" when? then+
    start       := "start" NAME
    pattern     := pword | "any" | "none" | "[" pword ("," pword)* "]"
    when        := "when" cond ("and"? cond)*
    cond        := unary ("or" unary)*
    unary       := "not" unary | "(" cond ("and" cond)* ")" | primitive
    then        := "then" effect+

An `IDENT` is any word, a `NAME` is a string or a word that is not reserved, and a
`pword` is a word that does not end a pattern.  The primitive conditions are those
of `Atom`, and the effects those of `Step`.  Nothing begins with an integer, so that
after `exit` and `go` the word `word` is a direction only if no integer follows it.
-/
import TextAdventure.Proofs.Syntax.Bare
import TextAdventure.Script.Grammar

namespace TextAdventure
namespace Script
namespace Phrase

/-- The tokens of something that may be left out. -/
def optional {D : Type} (tokens : D → List Token) : Option D → List Token
  | none => []
  | some d => tokens d

/-! ## Names and patterns -/

/-- A name is quoted, unless it is a word that can stand for a name. -/
inductive Name where
  | bare (word : String) (h : Grammar.isReserved word = false)
  | quoted (text : String)

namespace Name

def text : Name → String
  | .bare word _ => word
  | .quoted text => text

def token : Name → Token
  | .bare word _ => .word word
  | .quoted text => .string text

def tree (n : Name) : Spanned String := unplaced n.text

end Name

inductive Place where
  | room (name : Name)
  | nowhere
  | inventory

namespace Place

def token : Place → Token
  | .room name => name.token
  | .nowhere => .word "nowhere"
  | .inventory => .word "inventory"

def tree : Place → Script.Place
  | .room name => .room name.tree
  | .nowhere => .nowhere
  | .inventory => .inventory

end Place

/-- A word that can stand in a pattern. -/
structure PatternWord where
  word : String
  allowed : Grammar.endsPattern word = false

def PatternWord.token (w : PatternWord) : Token := .word w.word

inductive Pattern where
  | word (w : PatternWord)
  | any
  | none
  | list (first : PatternWord) (others : List PatternWord)

namespace Pattern

def tokens : Pattern → List Token
  | .word w => [w.token]
  | .any => [.word "any"]
  | .none => [.word "none"]
  | .list first others =>
    .leftBracket :: first.token :: others.flatMap (fun w => [.comma, w.token]) ++ [.rightBracket]

def tree : Pattern → Script.Pattern
  | .word w => .word w.word
  | .any => .any
  | .none => .none
  | .list first others => .list (first.word :: others.map (·.word))

end Pattern

/-! ## Conditions -/

inductive Atom where
  | word (position : Int64) (pattern : Pattern)
  | unrecognized (position : Int64)
  | here (item : Name)
  | carrying (item : Name)
  | present (item : Name)
  | inRoom (room : Name)
  | exitWord (position : Int64)
  | exit (direction : String)
  | random (percent : Int64)
  | moved (item : Name)
  | inPlay (item : Name)
  | flag (name : String)
  | counter (name : String) (comparison : Comparison) (value : Int64)
  | string (name value : String)
  | times (limit : Int64)
  | always

namespace Atom

def tokens : Atom → List Token
  | .word position pattern => .word "word" :: .integer position :: pattern.tokens
  | .unrecognized position => [.word "unrecognized", .integer position]
  | .here item => [.word "here", item.token]
  | .carrying item => [.word "carrying", item.token]
  | .present item => [.word "present", item.token]
  | .inRoom room => [.word "in", room.token]
  | .exitWord position => [.word "exit", .word "word", .integer position]
  | .exit direction => [.word "exit", .word direction]
  | .random percent => [.word "random", .integer percent]
  | .moved item => [.word "moved", item.token]
  | .inPlay item => [.word "exists", item.token]
  | .flag name => [.word "flag", .word name]
  | .counter name comparison value =>
    [.word "counter", .word name, .compare comparison, .integer value]
  | .string name value => [.word "string", .word name, .compare .eq, .string value]
  | .times limit => [.word "times", .integer limit]
  | .always => [.word "always"]

def tree : Atom → Script.Atom
  | .word position pattern => .word (unplaced position) (unplaced pattern.tree)
  | .unrecognized position => .unrecognized (unplaced position)
  | .here item => .here item.tree
  | .carrying item => .carrying item.tree
  | .present item => .present item.tree
  | .inRoom room => .inRoom room.tree
  | .exitWord position => .exitWord (unplaced position)
  | .exit direction => .exit direction
  | .random percent => .random (unplaced percent)
  | .moved item => .moved item.tree
  | .inPlay item => .inPlay item.tree
  | .flag name => .flag name
  | .counter name comparison value => .counter name comparison value
  | .string name value => .string name value
  | .times limit => .times (unplaced limit)
  | .always => .always

end Atom

mutual
inductive Unary where
  | atom (a : Atom)
  | not (inner : Unary)
  | group (first : Cond) (others : List Cond)

/-- What stands between two words `or` binds tighter than they do. -/
inductive Cond where
  | mk (first : Unary) (others : List Unary)
end

mutual
def Unary.tokens : Unary → List Token
  | .atom a => a.tokens
  | .not inner => .word "not" :: inner.tokens
  | .group first others =>
    .leftParen :: (first.tokens ++ (Cond.tokensAll others ++ [.rightParen]))

def Cond.tokens : Cond → List Token
  | .mk first others => first.tokens ++ Unary.tokensAll others

def Unary.tokensAll : List Unary → List Token
  | [] => []
  | u :: rest => .word "or" :: u.tokens ++ Unary.tokensAll rest

def Cond.tokensAll : List Cond → List Token
  | [] => []
  | c :: rest => .word "and" :: c.tokens ++ Cond.tokensAll rest
end

mutual
/-- A single condition in parentheses is that condition. -/
def Unary.tree : Unary → Guard
  | .atom a => .atom a.tree ⟨0, 0⟩
  | .not inner => .not inner.tree ⟨0, 0⟩
  | .group first [] => first.tree
  | .group first (second :: others) =>
    .and (first.tree :: second.tree :: Cond.treeAll others) ⟨0, 0⟩

def Cond.tree : Cond → Guard
  | .mk first [] => first.tree
  | .mk first (second :: others) =>
    .or (first.tree :: second.tree :: Unary.treeAll others) ⟨0, 0⟩

def Unary.treeAll : List Unary → List Guard
  | [] => []
  | u :: rest => u.tree :: Unary.treeAll rest

def Cond.treeAll : List Cond → List Guard
  | [] => []
  | c :: rest => c.tree :: Cond.treeAll rest
end

theorem Unary.tokensAll_eq_flatMap (us : List Unary) :
    Unary.tokensAll us = us.flatMap fun u => .word "or" :: u.tokens := by
  induction us with
  | nil => rw [Unary.tokensAll, List.flatMap_nil]
  | cons u rest ih => rw [Unary.tokensAll, ih, List.flatMap_cons]

theorem Cond.tokensAll_eq_flatMap (cs : List Cond) :
    Cond.tokensAll cs = cs.flatMap fun c => .word "and" :: c.tokens := by
  induction cs with
  | nil => rw [Cond.tokensAll, List.flatMap_nil]
  | cons c rest ih => rw [Cond.tokensAll, ih, List.flatMap_cons]

theorem Unary.treeAll_eq_map (us : List Unary) : Unary.treeAll us = us.map Unary.tree := by
  induction us with
  | nil => rw [Unary.treeAll, List.map_nil]
  | cons u rest ih => rw [Unary.treeAll, ih, List.map_cons]

theorem Cond.treeAll_eq_map (cs : List Cond) : Cond.treeAll cs = cs.map Cond.tree := by
  induction cs with
  | nil => rw [Cond.treeAll, List.map_nil]
  | cons c rest ih => rw [Cond.treeAll, ih, List.map_cons]

/-- A further condition of a rule, and whether `and` stands before it. -/
structure Further where
  joined : Bool
  cond : Cond

def Further.tokens (f : Further) : List Token :=
  if f.joined then .word "and" :: f.cond.tokens else f.cond.tokens

structure When where
  first : Cond
  others : List Further

namespace When

def tokens (w : When) : List Token :=
  .word "when" :: w.first.tokens ++ w.others.flatMap Further.tokens

def tree (w : When) : List Guard :=
  w.first.tree :: w.others.map (·.cond.tree)

end When

/-! ## Steps -/

inductive Step where
  | print (template : String)
  | println (template : String)
  | look
  | inventory
  | goWord (position : Int64)
  | go (direction : String)
  | goto (room : Name)
  | get (item : Name)
  | drop (item : Name)
  | putHere (item : Name)
  | put (item : Name) (place : Place)
  | swap (a b : Name)
  | destroy (item : Name)
  | setFlag (name : String)
  | resetFlag (name : String)
  | setCounter (name : String) (value : Int64)
  | increment (name : String)
  | decrement (name : String)
  | resetCounter (name : String)
  | setString (name value : String)
  | quit

namespace Step

def tokens : Step → List Token
  | .print template => [.word "print", .string template]
  | .println template => [.word "println", .string template]
  | .look => [.word "look"]
  | .inventory => [.word "inventory"]
  | .goWord position => [.word "go", .word "word", .integer position]
  | .go direction => [.word "go", .word direction]
  | .goto room => [.word "goto", room.token]
  | .get item => [.word "get", item.token]
  | .drop item => [.word "drop", item.token]
  | .putHere item => [.word "put", item.token, .word "here"]
  | .put item place => [.word "put", item.token, .word "in", place.token]
  | .swap a b => [.word "swap", a.token, b.token]
  | .destroy item => [.word "destroy", item.token]
  | .setFlag name => [.word "flag", .word "set", .word name]
  | .resetFlag name => [.word "flag", .word "reset", .word name]
  | .setCounter name value => [.word "counter", .word "set", .word name, .integer value]
  | .increment name => [.word "counter", .word "increment", .word name]
  | .decrement name => [.word "counter", .word "decrement", .word name]
  | .resetCounter name => [.word "counter", .word "reset", .word name]
  | .setString name value => [.word "string", .word "set", .word name, .string value]
  | .quit => [.word "quit"]

def tree : Step → Script.Step
  | .print template => .print template
  | .println template => .println template
  | .look => .look
  | .inventory => .inventory
  | .goWord position => .goWord (unplaced position)
  | .go direction => .go direction
  | .goto room => .goto room.tree
  | .get item => .get item.tree
  | .drop item => .drop item.tree
  | .putHere item => .putHere item.tree
  | .put item place => .put item.tree place.tree
  | .swap a b => .swap a.tree b.tree
  | .destroy item => .destroy item.tree
  | .setFlag name => .setFlag name
  | .resetFlag name => .resetFlag name
  | .setCounter name value => .setCounter name value
  | .increment name => .increment name
  | .decrement name => .decrement name
  | .resetCounter name => .resetCounter name
  | .setString name value => .setString name value
  | .quit => .quit

end Step

structure Clause where
  first : Step
  others : List Step

namespace Clause

def tokens (c : Clause) : List Token :=
  .word "then" :: c.first.tokens ++ c.others.flatMap Step.tokens

def tree (c : Clause) : List (Spanned Script.Step) :=
  (c.first :: c.others).map fun step => unplaced step.tree

end Clause

structure Body where
  guards : Option When
  first : Clause
  others : List Clause

namespace Body

def tokens (b : Body) : List Token :=
  optional When.tokens b.guards ++ (b.first.tokens ++ b.others.flatMap Clause.tokens)

def tree (b : Body) : RuleBody where
  guards := b.guards.elim [] When.tree
  clauses := (b.first :: b.others).map Clause.tree

end Body

/-! ## Declarations -/

inductive Target where
  | self
  | room (name : Name)

namespace Target

def token : Target → Token
  | .self => .word "self"
  | .room name => name.token

def tree? : Target → Option (Spanned String)
  | .self => none
  | .room name => some name.tree

end Target

structure Exit where
  direction : String
  target : Option Target

namespace Exit

def tokens (e : Exit) : List Token :=
  .word "exit" :: .word e.direction :: optional (fun t => [.arrow, t.token]) e.target

/-- An exit to the room itself is one without a target. -/
def tree (e : Exit) : ExitClause := ⟨unplaced e.direction, e.target.bind Target.tree?⟩

end Exit

structure Room where
  name : Name
  description : Option String
  exits : List Exit

namespace Room

def tokens (r : Room) : List Token :=
  r.name.token :: optional (fun s => [.string s]) r.description ++ r.exits.flatMap Exit.tokens

def tree (r : Room) : RoomDecl := ⟨r.name.tree, r.description, r.exits.map Exit.tree⟩

end Room

inductive ItemClause where
  | otherName (name : String)
  | portable
  | inPlace (place : Place)

namespace ItemClause

def tokens : ItemClause → List Token
  | .otherName name => [.word "alias", .string name]
  | .portable => [.word "portable"]
  | .inPlace place => [.word "in", place.token]

def tree : ItemClause → Script.ItemClause
  | .otherName name => .otherName name
  | .portable => .portable
  | .inPlace place => .inPlace place.tree

end ItemClause

structure Item where
  name : Name
  description : Option String
  clauses : List ItemClause

namespace Item

def tokens (i : Item) : List Token :=
  i.name.token ::
    optional (fun s => [.string s]) i.description ++ i.clauses.flatMap ItemClause.tokens

def tree (i : Item) : ItemDecl :=
  ⟨i.name.tree, i.description, i.clauses.map fun clause => unplaced clause.tree⟩

end Item

structure Word where
  name : String
  synonyms : List String

namespace Word

def tokens (w : Word) : List Token :=
  .word w.name :: w.synonyms.map .string

def tree (w : Word) : WordDecl := ⟨unplaced w.name, w.synonyms⟩

end Word

structure Action where
  verb : Pattern
  noun : Option Pattern
  body : Body

namespace Action

def tokens (a : Action) : List Token :=
  a.verb.tokens ++ (optional Pattern.tokens a.noun ++ a.body.tokens)

def tree (a : Action) : ActionDecl :=
  ⟨unplaced a.verb.tree, a.noun.map fun noun => unplaced noun.tree, a.body.tree⟩

end Action

inductive Declaration where
  | room (r : Room)
  | item (i : Item)
  | word (w : Word)
  | action (a : Action)
  | occurs (body : Body)
  | start (name : Name)

namespace Declaration

def tokens : Declaration → List Token
  | .room r => .word "room" :: r.tokens
  | .item i => .word "item" :: i.tokens
  | .word w => .word "word" :: w.tokens
  | .action a => .word "action" :: a.tokens
  | .occurs body => .word "occurs" :: body.tokens
  | .start name => [.word "start", name.token]

def tree : Declaration → Script.Declaration
  | .room r => .room r.tree
  | .item i => .item i.tree
  | .word w => .word w.tree
  | .action a => .action a.tree
  | .occurs body => .occurs body.tree
  | .start name => .start name.tree

end Declaration

end Phrase

/-- A sentence of the grammar, as it is derived. -/
structure Sentence where
  declarations : List Phrase.Declaration

namespace Sentence

def tokens (s : Sentence) : List Token := s.declarations.flatMap Phrase.Declaration.tokens

def tree (s : Sentence) : Tree := ⟨s.declarations.map fun d => unplaced d.tree⟩

end Sentence

end Script
end TextAdventure
