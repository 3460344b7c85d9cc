/-
The world that a script declares.

The declarations of a script are gone through more than once: for the names, for
the words, and for the rooms and items themselves.  What one pass finds another
uses, such as the room that an item follows, and each of them skips what it takes
for wrong.  In a script that compiles nothing is skipped, and the world is what
the script says, from one end to the other.
-/
import TextAdventure.Proofs.Script.Acceptance

namespace TextAdventure
namespace Script

open Text

/-! ## Declarations in their order -/

namespace Declaration

def room? : Declaration → Option RoomDecl
  | .room decl => some decl
  | _ => none

def start? : Declaration → Option (Spanned String)
  | .start name => some name
  | _ => none

theorem room?_eq_some {d : Declaration} {decl : RoomDecl} (h : d.room? = some decl) :
    d = .room decl := by
  cases d with
  | room decl' => exact congrArg room (Option.some.inj h)
  | _ => exact absurd h nofun

end Declaration

namespace Tree

def rooms (tree : Tree) : List RoomDecl := tree.nodes.filterMap Declaration.room?

def starts (tree : Tree) : List (Spanned String) := tree.nodes.filterMap Declaration.start?

/-- Whether a name means a room, which is declared, by that name in some case,
and is the only one. -/
structure Means (tree : Tree) (name room : String) : Prop where
  declared : room ∈ tree.roomNames
  lower_eq : lower room = lower name
  sole : ∀ other ∈ tree.roomNames, lower other = lower name → other = room

end Tree

/-- The items among some declarations, each with the last room before it.  Before
the first of them that is `nearest`. -/
def itemsAfter (nearest : Option String) : List Declaration → List (Option String × ItemDecl)
  | [] => []
  | .room decl :: rest => itemsAfter (some decl.name.node) rest
  | .item decl :: rest => (nearest, decl) :: itemsAfter nearest rest
  | _ :: rest => itemsAfter nearest rest

/-! ## What they declare -/

structure ExitClause.Declares (tree : Tree) (room : String) (clause : ExitClause) (exit : Exit) :
    Prop where
  direction : exit.direction = .named (wordFor tree.lexicon clause.direction.node)
  target : match clause.target with
    | some name => tree.Means name.node exit.target
    | none => exit.target = room

structure RoomDecl.Declares (tree : Tree) (decl : RoomDecl) (r : Room) : Prop where
  name : r.name = decl.name.node
  description : decl.description = some r.description
  exits : List.Forall₂ (ExitClause.Declares tree decl.name.node) decl.exits r.exits

/-- Whether an item starts where its last place says, or else in the room before
it. -/
def ItemDecl.StartsIn (tree : Tree) (nearest : Option String) (decl : ItemDecl)
    (location : Location) : Prop :=
  match decl.places.getLast? with
  | some (.room name) => ∃ room, tree.Means name.node room ∧ location = .room room
  | some .inventory => location = .inventory
  | some .nowhere => location = .nowhere
  | none => ∃ room, nearest = some room ∧ location = .room room

structure ItemDecl.Declares (tree : Tree) (nearest : Option String) (decl : ItemDecl) (i : Item) :
    Prop where
  name : i.name = decl.name.node
  description : decl.description = some i.description
  portable : i.portable = true ↔ decl.Carriable
  aliases : i.aliases = decl.aliases
  start : decl.StartsIn tree nearest i.start

/-- Whether the world of an adventure is that of a script: its rooms and its items
are those that are declared, in the order in which they are, and it starts where
the script says last, or else in the first room. -/
structure Tree.Declares (tree : Tree) (a : Adventure) : Prop where
  rooms : List.Forall₂ (RoomDecl.Declares tree) tree.rooms a.world.rooms
  items : List.Forall₂ (fun follows i => ItemDecl.Declares tree follows.1 follows.2 i)
    (itemsAfter none tree.nodes) a.world.items
  start : match tree.starts.getLast? with
    | some name => tree.Means name.node a.start
    | none => tree.roomNames.head? = some a.start

/-! ## Names -/

variable {tree : Tree}

namespace Tree

theorem means_of_lower_eq (h : (Names.ofTree tree).duplicates = []) {name room : String}
    (hroom : room ∈ tree.roomNames) (hlower : lower room = lower name) :
    tree.Means name room where
  declared := hroom
  lower_eq := hlower
  sole other hother hsame := by
    have hdistinct := ((Names.duplicates_ofTree tree).1 h).1
    exact List.inj_on_of_nodup_map hdistinct hother hroom (hsame.trans hlower.symm)

theorem means_of_roomRef (h : (Names.ofTree tree).duplicates = []) {name : Spanned String}
    {room : String} (href : (Names.ofTree tree).roomRef name = .valid room) :
    tree.Means name.node room := by
  obtain ⟨d, hd, rfl⟩ := Names.roomRef_eq_valid.1 href
  have hfound := Names.room?_ofTree tree name.node
  rw [hd, Option.map_some, eq_comm] at hfound
  have hlower : sameInLower name.node d.name = true := List.find?_some hfound
  exact means_of_lower_eq h (List.mem_of_find?_eq_some hfound) (eq_of_beq hlower)

end Tree

/-! ## Rooms -/

theorem ExitClause.declares_of_check (h : (Names.ofTree tree).duplicates = []) {room : String}
    {clause : ExitClause} {exit : Exit}
    (hexit : RoomDecl.checkExit (Names.ofTree tree) tree.lexicon room clause = .valid exit) :
    clause.Declares tree room exit := by
  obtain ⟨target, htarget, rfl⟩ := Checked.map_eq_valid.1 hexit
  refine ⟨rfl, ?_⟩
  cases hclause : clause.target with
  | none =>
    rw [hclause] at htarget
    exact (Checked.valid.inj htarget).symm
  | some name =>
    rw [hclause] at htarget
    exact Tree.means_of_roomRef h htarget

theorem RoomDecl.declares_of_check (h : (Names.ofTree tree).duplicates = []) {decl : RoomDecl}
    {r : Room} (hr : decl.check (Names.ofTree tree) tree.lexicon = .valid (some r)) :
    decl.Declares tree r := by
  obtain ⟨description, exits, hdescription, hexits, rfl⟩ := check_eq_some hr
  exact ⟨rfl, hdescription, hexits.imp fun _ _ => ExitClause.declares_of_check h⟩

namespace MadeOf

variable {a : Adventure} {world rules : List (Option Part)}

/-- Every room that is declared is there, since each owns its name. -/
theorem declares_rooms (made : MadeOf tree a world rules) :
    List.Forall₂ (RoomDecl.Declares tree) tree.rooms a.world.rooms := by
  have hchecked : List.Forall₂
      (fun d p => d.checkWorld (Names.ofTree tree) tree.lexicon = .valid p) tree.nodes world :=
    List.forall₂_map_left_iff.2 made.checkedWorld
  rw [made.rooms]
  refine List.rel_filterMap (fun d p hp => ?_) (forall₂_mem_left hchecked)
  obtain ⟨hd, hp⟩ := hp
  cases d with
  | room decl =>
    obtain ⟨r, hr, rfl⟩ := Checked.map_eq_valid.1 hp
    cases r with
    | none =>
      have howns := Names.ownsRoom_of_distinct made.distinct hd
      exact absurd hr (RoomDecl.check_ne_none howns)
    | some r => exact .some (RoomDecl.declares_of_check made.distinct hr)
  | item decl =>
    obtain ⟨i, -, rfl⟩ := Checked.map_eq_valid.1 hp
    cases i <;> exact .none
  | _ =>
    rw [← Checked.valid.inj hp]
    exact .none

end MadeOf

/-! ## Items -/

theorem ItemDecl.startsIn_of_check (h : (Names.ofTree tree).duplicates = []) {decl : ItemDecl}
    {before after : List Declaration} (hsplit : tree.nodes = before ++ .item decl :: after)
    {location : Location} (hstart : decl.checkStart (Names.ofTree tree) = .valid location) :
    decl.StartsIn tree (before.filterMap Declaration.roomName?).getLast? location := by
  have hnearest := Names.preceding_of_distinct h hsplit
  rw [StartsIn, ← decl.place?_node]
  rw [checkStart, hnearest] at hstart
  cases hplace : decl.place? with
  | none =>
    rw [hplace] at hstart
    cases hroom : (before.filterMap Declaration.roomName?).getLast? with
    | none =>
      rw [hroom] at hstart
      exact absurd hstart Checked.error_ne_valid
    | some room =>
      rw [hroom] at hstart
      exact ⟨room, rfl, (Checked.valid.inj hstart).symm⟩
  | some place =>
    obtain ⟨place, span⟩ := place
    rw [hplace] at hstart
    cases place with
    | room name =>
      obtain ⟨room, hroom, hlocation⟩ := Checked.map_eq_valid.1 hstart
      exact ⟨room, Tree.means_of_roomRef h hroom, hlocation.symm⟩
    | nowhere => exact (Checked.valid.inj hstart).symm
    | inventory =>
      dsimp only at hstart
      split at hstart
      · exact (Checked.valid.inj hstart).symm
      · exact absurd hstart Checked.error_ne_valid

theorem ItemDecl.declares_of_check (h : (Names.ofTree tree).duplicates = []) {decl : ItemDecl}
    {before after : List Declaration} (hsplit : tree.nodes = before ++ .item decl :: after)
    {i : Item} (hi : decl.check (Names.ofTree tree) = .valid (some i)) :
    decl.Declares tree (before.filterMap Declaration.roomName?).getLast? i := by
  obtain ⟨description, start, hdescription, hstart, rfl⟩ := check_eq_some hi
  exact ⟨rfl, hdescription, isPortable_eq_true, rfl, startsIn_of_check h hsplit hstart⟩

namespace Tree

end Tree

end Script
end TextAdventure
