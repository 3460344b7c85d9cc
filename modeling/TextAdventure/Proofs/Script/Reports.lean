/-
What the checks of a script report.

A script takes for granted that the names it refers to are declared and that
some of its numbers are in range.  The check of a rule reports what is wrong
with these premises, in their order, and nothing else.  That of a room does so
if the room has a description and its name is not taken by another.
-/
import TextAdventure.Proofs.Script.Checked
import TextAdventure.Script.Compile

namespace TextAdventure
namespace Script

/-! ## Gathering -/

namespace Checked

variable {α β γ : Type}

theorem diagnostics_eq_nil {c : Checked α} : c.diagnostics = [] ↔ ∃ a, c = .valid a := by
  cases c with
  | valid a => simp [diagnostics]
  | wrong first others => simp [diagnostics]

@[simp]
theorem diagnostics_map (f : α → β) (c : Checked α) : (c.map f).diagnostics = c.diagnostics := by
  cases c <;> rfl

@[simp]
theorem diagnostics_map₂ (f : α → β → γ) (a : Checked α) (b : Checked β) :
    (map₂ f a b).diagnostics = a.diagnostics ++ b.diagnostics := by
  cases a with
  | valid a => cases b <;> rfl
  | wrong first others => rfl

theorem diagnostics_all_map (f : α → Checked β) (as : List α) :
    (all (as.map f)).diagnostics = as.flatMap fun a => (f a).diagnostics := by
  induction as with
  | nil => rfl
  | cons a rest ih => rw [List.map_cons, all, diagnostics_map₂, ih, List.flatMap_cons]

@[simp]
theorem diagnostics_given (complaints : List Diagnostic) (c : Checked α) :
    (given complaints c).diagnostics = complaints ++ c.diagnostics := by
  cases complaints <;> rfl

end Checked

/-! ## Premises -/

/-- What a script takes for granted: that a name is declared, or that a number
is one of those that can stand where it does. -/
inductive Premise where
  | room (name : Spanned String)
  | item (name : Spanned String)
  | position (n : Spanned Int64)
  | percent (n : Spanned Int64)
  | limit (n : Spanned Int64)

namespace Premise

/-- What is wrong with a premise, which is one thing at most. -/
def faults (names : Names) : Premise → List Diagnostic
  | .room name => (names.roomRef name).diagnostics
  | .item name => (names.itemRef name).diagnostics
  | .position n => (checkPosition n).diagnostics
  | .percent n =>
    if 0 ≤ n.node.toInt ∧ n.node.toInt ≤ 100 then []
    else [.plain n.span s!"random percentage must be 0 to 100, found {toString n.node.toInt}"]
  | .limit n =>
    if 0 ≤ n.node.toInt then []
    else [.plain n.span s!"times must not be negative, found {toString n.node.toInt}"]

/-- Whether a premise holds among declarations of the given names, in any
case. -/
def Holds (rooms items : List String) : Premise → Prop
  | .room name => ∃ room ∈ rooms, Text.lower room = Text.lower name.node
  | .item name => ∃ item ∈ items, Text.lower item = Text.lower name.node
  | .position n => 1 ≤ n.node.toInt
  | .percent n => 0 ≤ n.node.toInt ∧ n.node.toInt ≤ 100
  | .limit n => 0 ≤ n.node.toInt

end Premise

def Place.premises : Place → List Premise
  | .room name => [.room name]
  | .nowhere => []
  | .inventory => []

def Atom.premises : Atom → List Premise
  | .word position _ => [.position position]
  | .unrecognized position => [.position position]
  | .here item => [.item item]
  | .carrying item => [.item item]
  | .present item => [.item item]
  | .inRoom room => [.room room]
  | .exitWord position => [.position position]
  | .exit _ => []
  | .random percent => [.percent percent]
  | .moved item => [.item item]
  | .inPlay item => [.item item]
  | .flag _ => []
  | .counter _ _ _ => []
  | .string _ _ => []
  | .times limit => [.limit limit]
  | .always => []

namespace Guard

mutual
def premises : Guard → List Premise
  | .atom a _ => a.premises
  | .not inner _ => premises inner
  | .and parts _ => premisesOf parts
  | .or parts _ => premisesOf parts

def premisesOf : List Guard → List Premise
  | [] => []
  | g :: rest => premises g ++ premisesOf rest
end

theorem premisesOf_eq_flatMap (gs : List Guard) : premisesOf gs = gs.flatMap premises := by
  induction gs with
  | nil => rfl
  | cons g rest ih => rw [premisesOf, ih, List.flatMap_cons]

end Guard

def Step.premises : Step → List Premise
  | .goWord position => [.position position]
  | .goto room => [.room room]
  | .get item => [.item item]
  | .drop item => [.item item]
  | .putHere item => [.item item]
  | .put item place => .item item :: place.premises
  | .swap a b => [.item a, .item b]
  | .destroy item => [.item item]
  | _ => []

/-- The premises of the conditions, and of every step of every clause. -/
def RuleBody.premises (body : RuleBody) : List Premise :=
  Guard.premisesOf body.guards ++
    body.clauses.flatMap fun clause => clause.flatMap (·.node.premises)

def ExitClause.premises (clause : ExitClause) : List Premise :=
  match clause.target with
  | some name => [.room name]
  | none => []

def RoomDecl.premises (decl : RoomDecl) : List Premise :=
  decl.exits.flatMap ExitClause.premises

/-- The premises of what is no room and no item. -/
def Declaration.rulePremises : Declaration → List Premise
  | .action decl => decl.body.premises
  | .occurs body => body.premises
  | .start name => [.room name]
  | _ => []

/-! ## Reports -/

variable {names : Names} {lexicon : Vocabulary}

theorem Place.check_diagnostics (place : Place) :
    (place.check names).diagnostics = place.premises.flatMap (Premise.faults names) := by
  cases place with
  | room name =>
    rw [check, Checked.diagnostics_map, premises, List.flatMap_singleton]
    rfl
  | nowhere => rfl
  | inventory => rfl

theorem Atom.check_diagnostics (a : Atom) :
    (a.check names lexicon).diagnostics = a.premises.flatMap (Premise.faults names) := by
  cases a with
  | random percent | times limit =>
    rw [check, premises, List.flatMap_singleton, Premise.faults]
    split <;> rfl
  | exit _ | flag _ | counter _ _ _ | string _ _ | always => rfl
  | _ =>
    rw [check, Checked.diagnostics_map, premises, List.flatMap_singleton]
    rfl

namespace Guard

mutual
theorem check_diagnostics (g : Guard) :
    (g.check names lexicon).diagnostics = g.premises.flatMap (Premise.faults names) := by
  cases g with
  | atom a span => exact a.check_diagnostics
  | not inner span =>
    rw [check, Checked.diagnostics_map, premises]
    exact check_diagnostics inner
  | and parts span =>
    rw [check, Checked.diagnostics_map, premises]
    exact checkAll_diagnostics parts
  | or parts span =>
    rw [check, Checked.diagnostics_map, premises]
    exact checkAll_diagnostics parts

theorem checkAll_diagnostics (gs : List Guard) :
    (checkAll names lexicon gs).diagnostics = (premisesOf gs).flatMap (Premise.faults names) := by
  cases gs with
  | nil => rfl
  | cons g rest =>
    rw [checkAll, Checked.diagnostics_map₂, premisesOf, List.flatMap_append,
      check_diagnostics g, checkAll_diagnostics rest]
end

end Guard

theorem Step.check_diagnostics (step : Step) :
    (step.check names lexicon).diagnostics = step.premises.flatMap (Premise.faults names) := by
  cases step with
  | put item place =>
    rw [check, Checked.diagnostics_map₂, Place.check_diagnostics, premises, List.flatMap_cons]
    rfl
  | swap a b =>
    rw [check, Checked.diagnostics_map₂, premises, List.flatMap_cons, List.flatMap_singleton]
    rfl
  | goWord _ | goto _ | get _ | drop _ | putHere _ | destroy _ =>
    rw [check, Checked.diagnostics_map, premises, List.flatMap_singleton]
    rfl
  | _ => rfl

theorem RuleBody.check_diagnostics (r : Rule) (body : RuleBody) :
    (body.check names lexicon r).diagnostics = body.premises.flatMap (Premise.faults names) := by
  have hclause : ∀ clause : List (Spanned Step),
      (Checked.all (clause.map (·.node.check names lexicon))).diagnostics =
        (clause.flatMap (·.node.premises)).flatMap (Premise.faults names) := by
    intro clause
    rw [Checked.diagnostics_all_map, List.flatMap_assoc]
    simp only [Step.check_diagnostics]
  rw [check, Checked.diagnostics_map₂, Guard.checkAll_diagnostics, Checked.diagnostics_all_map,
    premises, List.flatMap_append, List.flatMap_assoc]
  simp only [hclause]

theorem RoomDecl.checkExit_diagnostics (room : String) (clause : ExitClause) :
    (checkExit names lexicon room clause).diagnostics =
      clause.premises.flatMap (Premise.faults names) := by
  rw [checkExit, Checked.diagnostics_map, ExitClause.premises]
  cases clause.target with
  | none => rfl
  | some name => rw [List.flatMap_singleton]; rfl

theorem Declaration.checkRule_diagnostics (d : Declaration) :
    (d.checkRule names lexicon).diagnostics = d.rulePremises.flatMap (Premise.faults names) := by
  cases d with
  | action decl =>
    rw [checkRule, Checked.diagnostics_map, ActionDecl.check, RuleBody.check_diagnostics]
    rfl
  | occurs body =>
    rw [checkRule, Checked.diagnostics_map, RuleBody.check_diagnostics]
    rfl
  | start name =>
    rw [checkRule, Checked.diagnostics_map, rulePremises, List.flatMap_singleton]
    rfl
  | _ => rfl

/-- What is wrong with a room that its name refers to. -/
theorem RoomDecl.check_diagnostics (decl : RoomDecl) (h : names.ownsRoom decl.name = true) :
    (decl.check names lexicon).diagnostics =
      match decl.description with
      | none => [.plain decl.name.span s!"room \"{decl.name.node}\" has no description"]
      | some _ => decl.premises.flatMap (Premise.faults names) := by
  rw [check, if_pos h]
  cases decl.description with
  | none => rfl
  | some description =>
    show ((Checked.all _).map _).diagnostics = _
    rw [Checked.diagnostics_map, Checked.diagnostics_all_map, premises, List.flatMap_assoc]
    simp only [checkExit_diagnostics]

theorem ItemDecl.check_diagnostics (decl : ItemDecl) (h : names.ownsItem decl.name = true) :
    (decl.check names).diagnostics =
      match decl.description with
      | none => [.plain decl.name.span s!"item \"{decl.name.node}\" has no description"]
      | some _ => (decl.checkStart names).diagnostics := by
  rw [check, if_pos h]
  cases decl.description with
  | none => rfl
  | some description => exact Checked.diagnostics_map _ _

/-- A script is reported names declared twice, then what is wrong with its rooms
and items, then with its rules, and last that it has no rooms. -/
theorem Tree.check_diagnostics (tree : Tree) :
    tree.check.diagnostics = (Names.ofTree tree).duplicates ++
      (tree.declarations.flatMap (fun d =>
          (d.node.checkWorld (Names.ofTree tree) tree.lexicon).diagnostics) ++
        tree.declarations.flatMap (fun d =>
          d.node.rulePremises.flatMap (Premise.faults (Names.ofTree tree))) ++
        if (Names.ofTree tree).rooms.isEmpty then [.plain ⟨0, 0⟩ "script declares no rooms"]
        else []) := by
  rw [check, Checked.diagnostics_given, Checked.diagnostics_map₂, Checked.diagnostics_map₂,
    Checked.diagnostics_all_map, Checked.diagnostics_all_map]
  simp only [Declaration.checkRule_diagnostics]
  split <;> rfl

end Script
end TextAdventure
