/-
The names that a script declares.

All declarations are looked through before any is compiled, so that a script
may refer to rooms and items that it declares later on.
-/
import TextAdventure.Script.Diagnostic
import TextAdventure.Script.Tree
import TextAdventure.Text.Lowercase

namespace TextAdventure
namespace Script

open Text

/-- The first declaration of a name. -/
structure DeclaredRoom where
  name : String
  span : Span
  deriving DecidableEq

structure DeclaredItem where
  name : String
  span : Span
  /-- The room declared last before the item, where it starts if nothing else
  is said. -/
  preceding : Option String
  deriving DecidableEq

structure Names where
  rooms : List DeclaredRoom
  items : List DeclaredItem
  /-- The declarations whose name was taken, each as a complaint. -/
  duplicates : List Diagnostic

namespace Names

def empty : Names := ⟨[], [], []⟩

/-- The room that a name refers to, in any case. -/
def room? (names : Names) (name : String) : Option DeclaredRoom :=
  names.rooms.find? fun d => lower d.name == lower name

def item? (names : Names) (name : String) : Option DeclaredItem :=
  names.items.find? fun d => lower d.name == lower name

def duplicate (kind : String) (name : Spanned String) (first : Span) : Diagnostic where
  span := name.span
  message := s!"duplicate {kind}: \"{name.node}\""
  label := some s!"first declared at offset {first.start}"

def declareRoom (names : Names) (name : Spanned String) : Names :=
  match names.room? name.node with
  | some first =>
    { names with duplicates := names.duplicates ++ [duplicate "room" name first.span] }
  | none => { names with rooms := names.rooms ++ [⟨name.node, name.span⟩] }

def declareItem (names : Names) (name : Spanned String) : Names :=
  match names.item? name.node with
  | some first =>
    { names with duplicates := names.duplicates ++ [duplicate "item" name first.span] }
  | none =>
    let preceding := names.rooms.getLast?.map (·.name)
    { names with items := names.items ++ [⟨name.node, name.span, preceding⟩] }

def declare (names : Names) : Declaration → Names
  | .room decl => names.declareRoom decl.name
  | .item decl => names.declareItem decl.name
  | _ => names

def ofTree (tree : Tree) : Names :=
  (tree.declarations.map (·.node)).foldl declare empty

/-- Whether a declaration of a room is the one that its name refers to. -/
def ownsRoom (names : Names) (name : Spanned String) : Bool :=
  (names.room? name.node).any (·.span == name.span)

def ownsItem (names : Names) (name : Spanned String) : Bool :=
  (names.item? name.node).any (·.span == name.span)

def preceding (names : Names) (item : String) : Option String :=
  (names.item? item).bind (·.preceding)

def firstRoom (names : Names) : Option String :=
  names.rooms.head?.map (·.name)

/-! ## References -/

def roomRef (names : Names) (name : Spanned String) : Checked String :=
  match names.room? name.node with
  | some d => .valid d.name
  | none => .error name.span s!"undefined room: \"{name.node}\""

def itemRef (names : Names) (name : Spanned String) : Checked String :=
  match names.item? name.node with
  | some d => .valid d.name
  | none => .error name.span s!"undefined item: \"{name.node}\""

end Names

end Script
end TextAdventure
