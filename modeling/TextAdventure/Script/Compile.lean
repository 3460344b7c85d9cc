/-
From the tree of a script to the adventure it describes.

Everything that is wrong is reported: names declared twice first, then what is
wrong with rooms and items, then with rules, each in the order of the script.
-/
import TextAdventure.Adventure
import TextAdventure.Script.Grammar
import TextAdventure.Script.Lexeme
import TextAdventure.Script.Lexicon
import TextAdventure.Script.Names

namespace TextAdventure
namespace Script

/-! ## The world -/

namespace Place

def check (names : Names) : Place → Checked Location
  | .room name => (names.roomRef name).map .room
  | .nowhere => .valid .nowhere
  | .inventory => .valid .inventory

end Place

namespace RoomDecl

def checkExit (names : Names) (lexicon : Vocabulary) (room : String) (clause : ExitClause) :
    Checked Exit :=
  let target : Checked String := match clause.target with
    | none => .valid room
    | some name => names.roomRef name
  target.map fun target => ⟨.named (wordFor lexicon clause.direction.node), target⟩

/-- The room that is declared, unless its name belongs to another. -/
def check (names : Names) (lexicon : Vocabulary) (decl : RoomDecl) : Checked (Option Room) :=
  if names.ownsRoom decl.name then
    match decl.description with
    | none => .error decl.name.span s!"room \"{decl.name.node}\" has no description"
    | some description =>
      (Checked.all (decl.exits.map (checkExit names lexicon decl.name.node))).map fun exits =>
        some ⟨decl.name.node, description, exits⟩
  else .valid none

end RoomDecl

namespace ItemDecl

/-- An item is portable if that is said or if it has an alias. -/
def isPortable (decl : ItemDecl) : Bool :=
  decl.clauses.any fun clause =>
    match clause.node with
    | .otherName _ => true
    | .portable => true
    | .inPlace _ => false

/-- The place named last. -/
def place? (decl : ItemDecl) : Option (Spanned Place) :=
  (decl.clauses.filterMap fun clause =>
    match clause.node with
    | .inPlace place => some ⟨place, clause.span⟩
    | _ => none).getLast?

def checkStart (names : Names) (decl : ItemDecl) : Checked Location :=
  match decl.place? with
  | some ⟨.inventory, span⟩ =>
    if decl.isPortable then .valid .inventory
    else .error span
      s!"item \"{decl.name.node}\" is not portable and cannot start in the inventory"
  | some ⟨place, _⟩ => place.check names
  | none =>
    match names.preceding decl.name.node with
    | some room => .valid (.room room)
    | none => .error decl.name.span
        s!"item \"{decl.name.node}\" is declared before any room and has no location"

/-- The item that is declared, unless its name belongs to another. -/
def check (names : Names) (decl : ItemDecl) : Checked (Option Item) :=
  if names.ownsItem decl.name then
    match decl.description with
    | none => .error decl.name.span s!"item \"{decl.name.node}\" has no description"
    | some description =>
      (decl.checkStart names).map fun start => some {
        name := decl.name.node
        description
        portable := decl.isPortable
        aliases := decl.aliases
        start }
  else .valid none

end ItemDecl

/-! ## Conditions -/

def checkPosition (position : Spanned Int64) : Checked Nat :=
  if 1 ≤ position.node.toInt then .valid position.node.toInt.toNat
  else .error position.span
    s!"word position must be at least 1, found {toString position.node.toInt}"

namespace Pattern

def words (lexicon : Vocabulary) : Pattern → List Word
  | .word token => [.named (wordFor lexicon token)]
  | .any => [.any]
  | .none => [.none]
  | .list tokens => tokens.map fun token => .named (wordFor lexicon token)

/-- The condition that the word at a position is one of the pattern. -/
def condition (lexicon : Vocabulary) (position : Nat) (pattern : Pattern) : Condition :=
  match pattern.words lexicon with
  | [w] => .word position w
  | words => .any (words.map (.word position))

end Pattern

namespace Atom

def check (names : Names) (lexicon : Vocabulary) : Atom → Checked Condition
  | .word position pattern =>
    (checkPosition position).map fun p => pattern.node.condition lexicon p
  | .unrecognized position => (checkPosition position).map .unrecognized
  | .here item => (names.itemRef item).map .here
  | .carrying item => (names.itemRef item).map .carrying
  | .present item => (names.itemRef item).map .present
  | .inRoom room => (names.roomRef room).map .inRoom
  | .exitWord position => (checkPosition position).map .exitWord
  | .exit direction => .valid (.exit (.named (wordFor lexicon direction)))
  | .random percent =>
    if 0 ≤ percent.node.toInt ∧ percent.node.toInt ≤ 100 then
      .valid (.random percent.node.toInt.toNat)
    else .error percent.span
      s!"random percentage must be 0 to 100, found {toString percent.node.toInt}"
  | .moved item => (names.itemRef item).map .moved
  | .inPlay item => (names.itemRef item).map .inPlay
  | .flag name => .valid (.flag name)
  | .counter name comparison value => .valid (.counter name comparison value)
  | .string name value => .valid (.string name value)
  | .times limit =>
    if 0 ≤ limit.node.toInt then .valid (.times limit.node.toInt.toNat)
    else .error limit.span s!"times must not be negative, found {toString limit.node.toInt}"
  | .always => .valid .always

end Atom

namespace Guard

mutual
def check (names : Names) (lexicon : Vocabulary) : Guard → Checked Condition
  | .atom a _ => a.check names lexicon
  | .not inner _ => (check names lexicon inner).map .not
  | .and parts _ => (checkAll names lexicon parts).map .all
  | .or parts _ => (checkAll names lexicon parts).map .any

def checkAll (names : Names) (lexicon : Vocabulary) : List Guard → Checked (List Condition)
  | [] => .valid []
  | g :: rest => .map₂ (· :: ·) (check names lexicon g) (checkAll names lexicon rest)
end

end Guard

/-! ## Effects -/

namespace Step

def check (names : Names) (lexicon : Vocabulary) : Step → Checked Effect
  | .print template => .valid (.print template)
  | .println template => .valid (.println template)
  | .look => .valid .look
  | .inventory => .valid .inventory
  | .goWord position => (checkPosition position).map .goWord
  | .go direction => .valid (.go (.named (wordFor lexicon direction)))
  | .goto room => (names.roomRef room).map .goto
  | .get item => (names.itemRef item).map .get
  | .drop item => (names.itemRef item).map .drop
  | .putHere item => (names.itemRef item).map .putHere
  | .put item place => .map₂ .put (names.itemRef item) (place.check names)
  | .swap a b => .map₂ .swap (names.itemRef a) (names.itemRef b)
  | .destroy item => (names.itemRef item).map .destroy
  | .setFlag name => .valid (.setFlag name)
  | .resetFlag name => .valid (.resetFlag name)
  | .setCounter name value => .valid (.setCounter name value)
  | .increment name => .valid (.increment name)
  | .decrement name => .valid (.decrement name)
  | .resetCounter name => .valid (.resetCounter name)
  | .setString name value => .valid (.setString name value)
  | .quit => .valid .quit

end Step

/-! ## Rules -/

/-- Give a rule the effects of a clause in place of those it has. -/
def withClause (r : Rule) : List Effect → Rule
  | [] => r
  | first :: others => others.foldl Rule.append (r.restart first)

namespace RuleBody

/-- Extend a rule by conditions and by the effects of clauses, of which each
starts over. -/
def check (names : Names) (lexicon : Vocabulary) (r : Rule) (body : RuleBody) : Checked Rule :=
  .map₂ (fun conditions clauses => clauses.foldl withClause (conditions.foldl Rule.when r))
    (Guard.checkAll names lexicon body.guards)
    (.all (body.clauses.map fun clause => .all (clause.map (·.node.check names lexicon))))

end RuleBody

namespace ActionDecl

def pattern (lexicon : Vocabulary) (decl : ActionDecl) : Rule :=
  let noun := match decl.noun with
    | some noun => noun.node.condition lexicon 2
    | none => .word 2 .none
  (Rule.empty.when (decl.verb.node.condition lexicon 1)).when noun

def check (names : Names) (lexicon : Vocabulary) (decl : ActionDecl) : Checked Rule :=
  decl.body.check names lexicon (decl.pattern lexicon)

end ActionDecl

/-! ## Scripts -/

inductive Part where
  | room (room : Room)
  | item (item : Item)
  | action (rule : Rule)
  | occurs (rule : Rule)
  | start (room : String)

namespace Part

def room? : Part → Option Room
  | .room r => some r
  | _ => none

def item? : Part → Option Item
  | .item i => some i
  | _ => none

def action? : Part → Option Rule
  | .action rule => some rule
  | _ => none

def occurs? : Part → Option Rule
  | .occurs rule => some rule
  | _ => none

def start? : Part → Option String
  | .start name => some name
  | _ => none

end Part

namespace Declaration

/-- What a room or an item contributes to the world. -/
def checkWorld (names : Names) (lexicon : Vocabulary) : Declaration → Checked (Option Part)
  | .room decl => (decl.check names lexicon).map (·.map .room)
  | .item decl => (decl.check names).map (·.map .item)
  | _ => .valid none

def checkRule (names : Names) (lexicon : Vocabulary) : Declaration → Checked (Option Part)
  | .action decl => (decl.check names lexicon).map fun rule => some (.action rule)
  | .occurs body => (body.check names lexicon .empty).map fun rule => some (.occurs rule)
  | .start name => (names.roomRef name).map fun name => some (.start name)
  | _ => .valid none

end Declaration

namespace Tree

def check (tree : Tree) : Checked (List Part) :=
  let names := Names.ofTree tree
  let lexicon := tree.lexicon
  let world := Checked.all (tree.declarations.map (·.node.checkWorld names lexicon))
  let rules := Checked.all (tree.declarations.map (·.node.checkRule names lexicon))
  let parts := Checked.map₂ (fun a b => (a ++ b).filterMap id) world rules
  let rooms : Checked Unit :=
    if names.rooms.isEmpty then .error ⟨0, 0⟩ "script declares no rooms" else .valid ()
  .given names.duplicates (.map₂ (fun parts _ => parts) parts rooms)

/-- The adventure of the given parts.  The start named last counts, and without
one the adventure starts in the first room. -/
def assemble (tree : Tree) (parts : List Part) : Except Fault Adventure :=
  match World.empty.addRooms (parts.filterMap Part.room?) with
  | .error fault => .error fault
  | .ok world =>
    match world.addItems (parts.filterMap Part.item?) with
    | .error fault => .error fault
    | .ok world =>
      let start := (parts.filterMap Part.start?).getLast?.or (Names.ofTree tree).firstRoom
      Adventure.new world tree.vocabulary (parts.filterMap Part.occurs?) (parts.filterMap Part.action?)
        (start.getD "")

def compile (tree : Tree) : Except CompileError Adventure :=
  match tree.check with
  | .wrong first others => .error (.invalid (first :: others))
  | .valid parts =>
    match tree.assemble parts with
    | .ok adventure => .ok adventure
    | .error fault => .error (.invalid [.plain ⟨0, 0⟩ fault.message])

end Tree

/-- The adventure that a source describes.  What cannot be read is found before
what has no meaning, and in the lexemes before in the tree. -/
def compile (source : String) : Except CompileError Adventure :=
  match lexicalFaults source with
  | fault :: _ => .error (.unreadableIn source fault)
  | [] =>
    match Tree.ofTokens (tokens source) with
    | .error fault => .error (.unreadableIn source fault)
    | .ok tree => tree.compile

end Script
end TextAdventure
