/-
What is wrong does not depend on where it stands.

Checking a part of a script and then forgetting the places of what is found is
the same as forgetting the places first.  Only whether a declaration owns its
name is decided by places, so the checks of rooms and items are taken without
that question.
-/
import Mathlib.Data.List.Basic
import TextAdventure.Proofs.Syntax.Bare
import TextAdventure.Script.Compile

namespace TextAdventure
namespace Script

/-! ## Findings without places -/

def Diagnostic.bare (d : Diagnostic) : Diagnostic := .plain ⟨0, 0⟩ d.message

namespace Checked

variable {α β γ : Type}

/-- The same value, or what is wrong without its place. -/
def bare : Checked α → Checked α
  | .valid value => .valid value
  | .wrong first others => .wrong first.bare (others.map Diagnostic.bare)

theorem diagnostics_bare (c : Checked α) :
    c.bare.diagnostics = c.diagnostics.map Diagnostic.bare := by
  cases c <;> rfl

@[simp]
theorem bare_valid (a : α) : (Checked.valid a).bare = .valid a := rfl

@[simp]
theorem bare_error (span : Span) (message : String) :
    (error span message : Checked α).bare = error ⟨0, 0⟩ message := rfl

@[simp]
theorem bare_map (f : α → β) (c : Checked α) : (c.map f).bare = c.bare.map f := by
  cases c <;> rfl

@[simp]
theorem bare_map₂ (f : α → β → γ) (a : Checked α) (b : Checked β) :
    (map₂ f a b).bare = map₂ f a.bare b.bare := by
  cases a with
  | valid x => cases b <;> rfl
  | wrong first others =>
    show wrong _ ((others ++ b.diagnostics).map Diagnostic.bare) = wrong _ (_ ++ _)
    rw [List.map_append, diagnostics_bare]

@[simp]
theorem bare_all (cs : List (Checked α)) : (all cs).bare = all (cs.map bare) := by
  induction cs with
  | nil => rfl
  | cons c rest ih => rw [all, bare_map₂, ih, List.map_cons, all]

theorem bare_given (complaints : List Diagnostic) (c : Checked α) :
    (given complaints c).bare = given (complaints.map Diagnostic.bare) c.bare := by
  cases complaints with
  | nil => rfl
  | cons first others =>
    show wrong _ ((others ++ c.diagnostics).map Diagnostic.bare) = wrong _ (_ ++ _)
    rw [List.map_append, diagnostics_bare]

theorem bare_all_map {f g : α → Checked β} (h : ∀ a, (f a).bare = g a) (as : List α) :
    (all (as.map f)).bare = all (as.map g) := by
  rw [bare_all, List.map_map]
  exact congrArg all (List.map_congr_left fun a _ => h a)

theorem bare_ite (p : Prop) [Decidable p] (a b : Checked α) :
    (if p then a else b).bare = if p then a.bare else b.bare := by
  split <;> rfl

variable {c c' : Checked α}

theorem eq_valid_of_bare {a : α} (h : c.bare = .valid a) : c = .valid a := by
  cases c with
  | valid b => exact h
  | wrong first others => exact absurd h nofun

/-- Without its place, what is found still says the same. -/
theorem messages_of_bare (h : c.bare = c'.bare) :
    c.diagnostics.map (·.message) = c'.diagnostics.map (·.message) := by
  have hmessages : ∀ c : Checked α,
      c.diagnostics.map (·.message) = c.bare.diagnostics.map (·.message) := by
    intro c
    rw [diagnostics_bare, List.map_map]
    rfl
  rw [hmessages, h, ← hmessages]

end Checked

/-! ## Names -/

def DeclaredRoom.bare (d : DeclaredRoom) : DeclaredRoom := ⟨d.name, ⟨0, 0⟩⟩

def DeclaredItem.bare (d : DeclaredItem) : DeclaredItem := ⟨d.name, ⟨0, 0⟩, d.preceding⟩

namespace Names

def bare (names : Names) : Names where
  rooms := names.rooms.map DeclaredRoom.bare
  items := names.items.map DeclaredItem.bare
  duplicates := names.duplicates.map Diagnostic.bare

variable (names : Names)

theorem room?_bare (name : String) :
    names.bare.room? name = (names.room? name).map DeclaredRoom.bare := by
  rw [room?, bare, List.find?_map]
  rfl

theorem item?_bare (name : String) :
    names.bare.item? name = (names.item? name).map DeclaredItem.bare := by
  rw [item?, bare, List.find?_map]
  rfl

@[simp]
theorem roomRef_bare (name : Spanned String) :
    (names.roomRef name).bare = names.bare.roomRef name.bare := by
  have hfind : names.bare.room? name.bare.node = (names.room? name.node).map DeclaredRoom.bare :=
    room?_bare names name.node
  rw [roomRef, roomRef, hfind]
  cases names.room? name.node <;> rfl

@[simp]
theorem itemRef_bare (name : Spanned String) :
    (names.itemRef name).bare = names.bare.itemRef name.bare := by
  have hfind : names.bare.item? name.bare.node = (names.item? name.node).map DeclaredItem.bare :=
    item?_bare names name.node
  rw [itemRef, itemRef, hfind]
  cases names.item? name.node <;> rfl

theorem preceding_bare (item : String) : names.bare.preceding item = names.preceding item := by
  rw [preceding, preceding, item?_bare]
  cases names.item? item <;> rfl

theorem firstRoom_bare : names.bare.firstRoom = names.firstRoom := by
  rw [firstRoom, firstRoom, bare, List.head?_map]
  cases names.rooms.head? <;> rfl

theorem isEmpty_rooms_bare : names.bare.rooms.isEmpty = names.rooms.isEmpty := by
  rw [bare]
  exact List.isEmpty_map

theorem declareRoom_bare (name : Spanned String) :
    (names.declareRoom name).bare = (names.bare.declareRoom name.bare).bare := by
  have hfind : names.bare.room? name.bare.node = (names.room? name.node).map DeclaredRoom.bare :=
    room?_bare names name.node
  rw [declareRoom, declareRoom, hfind]
  cases names.room? name.node with
  | none =>
    simp only [Option.map_none, bare, List.map_append, List.map_map]
    rfl
  | some first =>
    simp only [Option.map_some, bare, List.map_append, List.map_map]
    rfl

theorem declareItem_bare (name : Spanned String) :
    (names.declareItem name).bare = (names.bare.declareItem name.bare).bare := by
  have hfind : names.bare.item? name.bare.node = (names.item? name.node).map DeclaredItem.bare :=
    item?_bare names name.node
  have hlast : names.bare.rooms.getLast?.map (·.name) = names.rooms.getLast?.map (·.name) := by
    rw [bare, List.getLast?_map, Option.map_map]
    rfl
  rw [declareItem, declareItem, hfind]
  cases names.item? name.node with
  | none =>
    simp only [Option.map_none, hlast]
    simp only [bare, List.map_append, List.map_map]
    rfl
  | some first =>
    simp only [Option.map_some, bare, List.map_append, List.map_map]
    rfl

/-- Declaring a name after its place is forgotten complains of the same. -/
theorem declare_bare (d : Declaration) :
    (names.declare d).bare = (names.bare.declare d.bare).bare := by
  have hsame : names.bare = names.bare.bare := by
    simp only [bare, List.map_map]
    rfl
  cases d with
  | room decl => exact names.declareRoom_bare decl.name
  | item decl => exact names.declareItem_bare decl.name
  | _ => exact hsame

/-- Declarations that say the same declare the same names. -/
theorem bare_foldl_declare {ds ds' : List Declaration} {names names' : Names}
    (hnames : names.bare = names'.bare)
    (h : ds.map Declaration.bare = ds'.map Declaration.bare) :
    (ds.foldl declare names).bare = (ds'.foldl declare names').bare := by
  induction ds generalizing ds' names names' with
  | nil =>
    obtain rfl : ds' = [] := List.map_eq_nil_iff.1 h.symm
    exact hnames
  | cons d rest ih =>
    cases ds' with
    | nil => exact absurd h (List.cons_ne_nil _ _)
    | cons d' rest' =>
      obtain ⟨hd, hrest⟩ := List.cons.inj h
      have hstep : (names.declare d).bare = (names'.declare d').bare := by
        rw [declare_bare, declare_bare names', hnames, hd]
      rw [List.foldl_cons, List.foldl_cons]
      exact ih hstep hrest

end Names

/-! ## Words -/

namespace Atom

theorem mentions_bare (a : Atom) : a.bare.mentions = a.mentions := by
  cases a <;> rfl

end Atom

namespace Guard

mutual
theorem mentions_bare : ∀ g : Guard, g.bare.mentions = g.mentions
  | .atom a _ => a.mentions_bare
  | .not inner _ => mentions_bare inner
  | .and parts _ => mentionsOf_bareAll parts
  | .or parts _ => mentionsOf_bareAll parts

theorem mentionsOf_bareAll : ∀ gs : List Guard, mentionsOf (bareAll gs) = mentionsOf gs
  | [] => rfl
  | g :: rest => by
    rw [bareAll, mentionsOf, mentionsOf, mentions_bare g, mentionsOf_bareAll rest]
end

end Guard

theorem Step.mentions_bare (s : Step) : s.bare.mentions = s.mentions := by
  cases s <;> rfl

theorem RuleBody.mentions_bare (body : RuleBody) : body.bare.mentions = body.mentions := by
  have hsteps : ((body.clauses.map Step.bareAll).flatten.flatMap fun s => s.node.mentions) =
      body.clauses.flatten.flatMap fun s => s.node.mentions := by
    have hbare : body.clauses.map Step.bareAll =
        body.clauses.map (List.map fun step => unplaced step.node.bare) := rfl
    rw [hbare, ← List.map_flatten, List.flatMap_map]
    exact congrArg (List.flatMap · _) (funext fun s => s.node.mentions_bare)
  rw [mentions, mentions, bare, ← Guard.bareAll_eq_map, Guard.mentionsOf_bareAll, hsteps]

theorem ItemDecl.aliases_bare (decl : ItemDecl) : decl.bare.aliases = decl.aliases := by
  rw [aliases, aliases, bare, List.filterMap_map]
  refine List.filterMap_congr fun clause _ => ?_
  obtain ⟨node, span⟩ := clause
  cases node <;> rfl

namespace Declaration

theorem word?_bare (d : Declaration) : d.bare.word? = d.word? := by
  cases d with
  | item decl =>
    show (if decl.bare.aliases.isEmpty then _ else _) = if decl.aliases.isEmpty then _ else _
    rw [decl.aliases_bare]
    rfl
  | _ => rfl

theorem exitMentions_bare (d : Declaration) : d.bare.exitMentions = d.exitMentions := by
  cases d with
  | room decl =>
    show (decl.exits.map ExitClause.bare).map _ = decl.exits.map _
    rw [List.map_map]
    rfl
  | _ => rfl

theorem ruleMentions_bare (d : Declaration) : d.bare.ruleMentions = d.ruleMentions := by
  cases d with
  | action decl =>
    show _ ++ _ ++ decl.body.bare.mentions = _ ++ _ ++ decl.body.mentions
    rw [decl.body.mentions_bare]
    cases hnoun : decl.noun <;> simp [ActionDecl.bare, Spanned.bare, unplaced, hnoun]
  | occurs body => exact body.mentions_bare
  | _ => rfl

end Declaration

/-! ## Conditions -/

variable {names : Names} {lexicon : Vocabulary}

@[simp]
theorem Place.check_bare (place : Place) :
    (place.check names).bare = place.bare.check names.bare := by
  cases place with
  | room name => simp [check, Place.bare]
  | _ => rfl

@[simp]
theorem checkPosition_bare (position : Spanned Int64) :
    (checkPosition position).bare = checkPosition position.bare := by
  rw [checkPosition, Checked.bare_ite]
  rfl

theorem Atom.check_bare (a : Atom) :
    (a.check names lexicon).bare = a.bare.check names.bare lexicon := by
  cases a with
  | random percent => exact Checked.bare_ite _ _ _
  | times limit => exact Checked.bare_ite _ _ _
  | word position pattern => simp [check, Atom.bare, Spanned.bare, unplaced]
  | _ => simp [check, Atom.bare]

namespace Guard

mutual
theorem check_bare : ∀ g : Guard, (g.check names lexicon).bare = g.bare.check names.bare lexicon
  | .atom a _ => a.check_bare
  | .not inner _ => by rw [check, Checked.bare_map, check_bare inner, bare, check]
  | .and parts _ => by rw [check, Checked.bare_map, checkAll_bare parts, bare, check]
  | .or parts _ => by rw [check, Checked.bare_map, checkAll_bare parts, bare, check]

theorem checkAll_bare : ∀ gs : List Guard,
    (checkAll names lexicon gs).bare = checkAll names.bare lexicon (bareAll gs)
  | [] => rfl
  | g :: rest => by
    rw [checkAll, Checked.bare_map₂, check_bare g, checkAll_bare rest, bareAll, checkAll]
end

end Guard

/-! ## Rules -/

theorem Step.check_bare (s : Step) :
    (s.check names lexicon).bare = s.bare.check names.bare lexicon := by
  cases s <;> simp [check, Step.bare]

theorem RuleBody.check_bare (r : Rule) (body : RuleBody) :
    (body.check names lexicon r).bare = body.bare.check names.bare lexicon r := by
  have hclause : ∀ clause : List (Spanned Step),
      (Checked.all (clause.map (·.node.check names lexicon))).bare =
        Checked.all ((Step.bareAll clause).map (·.node.check names.bare lexicon)) := by
    intro clause
    rw [Checked.bare_all_map fun step => step.node.check_bare, Step.bareAll, List.map_map]
    rfl
  rw [check, check, Checked.bare_map₂, Guard.checkAll_bare, Guard.bareAll_eq_map,
    Checked.bare_all_map hclause, bare, List.map_map]
  rfl

theorem ActionDecl.check_bare (decl : ActionDecl) :
    (decl.check names lexicon).bare = decl.bare.check names.bare lexicon := by
  have hpattern : decl.bare.pattern lexicon = decl.pattern lexicon := by
    rw [pattern, pattern, bare]
    cases decl.noun <;> rfl
  rw [check, check, RuleBody.check_bare, hpattern]
  rfl

theorem Declaration.checkRule_bare (d : Declaration) :
    (d.checkRule names lexicon).bare = d.bare.checkRule names.bare lexicon := by
  cases d with
  | action decl => simp [checkRule, Declaration.bare, ActionDecl.check_bare]
  | occurs body => simp [checkRule, Declaration.bare, RuleBody.check_bare]
  | start name => simp [checkRule, Declaration.bare]
  | _ => rfl

/-! ## Rooms and items -/

/-- What a declaration of a room gives if the name is its own. -/
def RoomDecl.contents (names : Names) (lexicon : Vocabulary) (decl : RoomDecl) :
    Checked (Option Room) :=
  match decl.description with
  | none => .error decl.name.span s!"room \"{decl.name.node}\" has no description"
  | some description =>
    (Checked.all (decl.exits.map (checkExit names lexicon decl.name.node))).map fun exits =>
      some ⟨decl.name.node, description, exits⟩

theorem RoomDecl.check_eq (decl : RoomDecl) : decl.check names lexicon =
    if names.ownsRoom decl.name then decl.contents names lexicon else .valid none := rfl

theorem RoomDecl.checkExit_bare (room : String) (clause : ExitClause) :
    (checkExit names lexicon room clause).bare = checkExit names.bare lexicon room clause.bare := by
  rw [checkExit, Checked.bare_map, checkExit]
  cases htarget : clause.target <;> simp [ExitClause.bare, Spanned.bare, unplaced, htarget]

theorem RoomDecl.contents_bare (decl : RoomDecl) :
    (decl.contents names lexicon).bare = decl.bare.contents names.bare lexicon := by
  have hexits : (Checked.all (decl.exits.map (checkExit names lexicon decl.name.node))).bare =
      Checked.all (decl.bare.exits.map (checkExit names.bare lexicon decl.name.node)) := by
    rw [Checked.bare_all_map (checkExit_bare decl.name.node), bare, List.map_map]
    rfl
  rw [contents, contents]
  show _ = match decl.description with | none => _ | some description => _
  cases decl.description with
  | none => rfl
  | some description =>
    dsimp only
    rw [Checked.bare_map, hexits]
    rfl

/-- What a declaration of an item gives if the name is its own. -/
def ItemDecl.contents (names : Names) (decl : ItemDecl) : Checked (Option Item) :=
  match decl.description with
  | none => .error decl.name.span s!"item \"{decl.name.node}\" has no description"
  | some description =>
    (decl.checkStart names).map fun start => some {
      name := decl.name.node
      description
      portable := decl.isPortable
      aliases := decl.aliases
      start }

theorem ItemDecl.check_eq (decl : ItemDecl) : decl.check names =
    if names.ownsItem decl.name then decl.contents names else .valid none := rfl

theorem ItemDecl.isPortable_bare (decl : ItemDecl) : decl.bare.isPortable = decl.isPortable := by
  rw [isPortable, isPortable, bare, List.any_map]
  refine List.any_congr rfl fun clause => ?_
  obtain ⟨node, span⟩ := clause
  cases node <;> rfl

theorem ItemDecl.place?_bare (decl : ItemDecl) :
    decl.bare.place? = decl.place?.map fun place => unplaced place.node.bare := by
  rw [place?, place?, ← List.getLast?_map, List.map_filterMap, bare, List.filterMap_map]
  refine congrArg List.getLast? (List.filterMap_congr fun clause _ => ?_)
  obtain ⟨node, span⟩ := clause
  cases node <;> rfl

theorem ItemDecl.checkStart_bare (decl : ItemDecl) :
    (decl.checkStart names).bare = decl.bare.checkStart names.bare := by
  have hpreceding : names.bare.preceding decl.bare.name.node = names.preceding decl.name.node :=
    names.preceding_bare decl.name.node
  rw [checkStart, checkStart, place?_bare, isPortable_bare, hpreceding]
  cases decl.place? with
  | none => cases names.preceding decl.name.node <;> rfl
  | some place =>
    obtain ⟨node, span⟩ := place
    cases node with
    | inventory => exact Checked.bare_ite _ _ _
    | room name => exact Place.check_bare (.room name)
    | nowhere => rfl

theorem ItemDecl.contents_bare (decl : ItemDecl) :
    (decl.contents names).bare = decl.bare.contents names.bare := by
  rw [contents, contents]
  show _ = match decl.description with | none => _ | some description => _
  cases decl.description with
  | none => rfl
  | some description =>
    dsimp only
    rw [Checked.bare_map, checkStart_bare, isPortable_bare, aliases_bare]
    rfl

end Script
end TextAdventure
