/-
Names that a script uses and does not declare.

Whatever a rule or a start refers to is looked up, in the clauses that count for
nothing too, and so is complained of next to everything else that is wrong.
Rooms and items are less thorough: one whose name is taken, or which has no
description, is not looked at further, and of several places of an item only the
last one is.  A script can therefore compile although an item is said to be in
a room that does not exist, if it is said to be elsewhere after that.
-/
import TextAdventure.Proofs.Script.Acceptance

namespace TextAdventure
namespace Script

open Text

/-! ## References -/

/-- A name that stands for a room or for an item. -/
inductive Reference where
  | room (name : Spanned String)
  | item (name : Spanned String)
  deriving DecidableEq

namespace Reference

def name : Reference → Spanned String
  | .room name => name
  | .item name => name

/-- Whether some declaration of a script is meant, in any case. -/
def Defined (tree : Tree) : Reference → Prop
  | .room name => ∃ room ∈ tree.roomNames, lower room = lower name.node
  | .item name => ∃ item ∈ tree.itemNames, lower item = lower name.node

instance (tree : Tree) : (r : Reference) → Decidable (r.Defined tree)
  | .room name =>
    inferInstanceAs (Decidable (∃ room ∈ tree.roomNames, lower room = lower name.node))
  | .item name =>
    inferInstanceAs (Decidable (∃ item ∈ tree.itemNames, lower item = lower name.node))

/-- What is reported of a reference that means nothing. -/
def report : Reference → Diagnostic
  | .room name => .plain name.span s!"undefined room: \"{name.node}\""
  | .item name => .plain name.span s!"undefined item: \"{name.node}\""

def premise : Reference → Premise
  | .room name => .room name
  | .item name => .item name

end Reference

/-- The references among some premises, which are also about numbers. -/
def references (ps : List Premise) : List Reference :=
  ps.filterMap fun
    | .room name => some (.room name)
    | .item name => some (.item name)
    | _ => none

namespace Declaration

/-- All that a declaration takes for granted, wherever it says so. -/
def premises : Declaration → List Premise
  | .room decl => decl.premises
  | .item decl => decl.places.flatMap Place.premises
  | d => d.rulePremises

/-- The premises of a room or an item that are not looked at: all of them if it
has no description, and else those of a place that another one follows. -/
def unread : Declaration → List Premise
  | .room decl => if decl.description = none then decl.premises else []
  | .item decl =>
    if decl.description = none then decl.places.flatMap Place.premises
    else decl.places.dropLast.flatMap Place.premises
  | _ => []

/-- The premises that are looked at. -/
def read : Declaration → List Premise
  | .room decl => if decl.description = none then [] else decl.premises
  | .item decl =>
    if decl.description = none then []
    else decl.places.getLast?.toList.flatMap Place.premises
  | d => d.rulePremises

/-- Whether no declaration of the same kind has taken the name of a room or an
item. -/
def New (before : List Declaration) : Declaration → Prop
  | .room decl => lower decl.name.node ∉ (before.filterMap roomName?).map lower
  | .item decl => lower decl.name.node ∉ (before.filterMap itemName?).map lower
  | _ => True

theorem mem_read_room {decl : RoomDecl} {p : Premise} (h : p ∈ (room decl).read) :
    (∃ description, decl.description = some description) ∧ p ∈ decl.premises := by
  rw [read] at h
  split at h
  · exact absurd h List.not_mem_nil
  · next hdescribed => exact ⟨Option.ne_none_iff_exists'.1 hdescribed, h⟩

theorem mem_read_item {decl : ItemDecl} {p : Premise} (h : p ∈ (item decl).read) :
    (∃ description, decl.description = some description) ∧
      p ∈ decl.places.getLast?.toList.flatMap Place.premises := by
  rw [read] at h
  split at h
  · exact absurd h List.not_mem_nil
  · next hdescribed => exact ⟨Option.ne_none_iff_exists'.1 hdescribed, h⟩

theorem mem_premises {d : Declaration} {p : Premise} (h : p ∈ d.premises) :
    p ∈ d.read ∨ p ∈ d.unread := by
  cases d with
  | room decl =>
    rw [read, unread]
    split
    · exact .inr h
    · exact .inl h
  | item decl =>
    rw [read, unread]
    split
    · exact .inr h
    · obtain ⟨place, hplace, hp⟩ := List.mem_flatMap.1 h
      cases hlast : decl.places.getLast? with
      | none =>
        rw [List.getLast?_eq_none_iff.1 hlast] at hplace
        exact absurd hplace List.not_mem_nil
      | some last =>
        rw [← List.dropLast_append_getLast? last hlast] at hplace
        rcases List.mem_append.1 hplace with hplace | hplace
        · exact .inr (List.mem_flatMap.2 ⟨place, hplace, hp⟩)
        · exact .inl (List.mem_flatMap.2 ⟨place, hplace, hp⟩)
  | _ => exact .inl h

end Declaration

/-- Whether a reference is looked up: it stands where its declaration is read,
and that one is the first of its name. -/
def Tree.LooksUp (tree : Tree) (r : Reference) : Prop :=
  ∃ before d after, tree.nodes = before ++ d :: after ∧ d.New before ∧ r ∈ references d.read

/-! ## Reports -/

variable {tree : Tree}

theorem mem_references {ps : List Premise} {r : Reference} (h : r ∈ references ps) :
    r.premise ∈ ps := by
  obtain ⟨p, hp, hr⟩ := List.mem_filterMap.1 h
  cases p with
  | room name | item name =>
    rw [← Option.some.inj hr]
    exact hp
  | _ => exact absurd hr nofun

theorem mem_references_of_mem {ps : List Premise} {r : Reference} (h : r.premise ∈ ps) :
    r ∈ references ps := by
  cases r with
  | room name => exact List.mem_filterMap.2 ⟨_, h, rfl⟩
  | item name => exact List.mem_filterMap.2 ⟨_, h, rfl⟩

namespace Reference

/-- A name that is not declared is a premise at fault, for this one reason. -/
theorem report_mem_faults {r : Reference} (h : ¬ r.Defined tree) :
    r.report ∈ r.premise.faults (Names.ofTree tree) := by
  cases r with
  | room name =>
    have hnone : (Names.ofTree tree).room? name.node = none := by
      rw [← Option.map_eq_none_iff, Names.room?_ofTree, find?_sameInLower_eq_none]
      exact fun hmem => h (List.mem_map.1 hmem)
    show _ ∈ ((Names.ofTree tree).roomRef name).diagnostics
    rw [Names.roomRef, hnone]
    exact List.mem_singleton_self _
  | item name =>
    have hnone : (Names.ofTree tree).item? name.node = none := by
      rw [← Option.map_eq_none_iff, Names.item?_ofTree, find?_sameInLower_eq_none]
      exact fun hmem => h (List.mem_map.1 hmem)
    show _ ∈ ((Names.ofTree tree).itemRef name).diagnostics
    rw [Names.itemRef, hnone]
    exact List.mem_singleton_self _

end Reference

/-- Where an item starts is said by its last place alone. -/
theorem ItemDecl.mem_checkStart_diagnostics {names : Names} {decl : ItemDecl} {p : Premise}
    {fault : Diagnostic} (hp : p ∈ decl.places.getLast?.toList.flatMap Place.premises)
    (hfault : fault ∈ p.faults names) : fault ∈ (decl.checkStart names).diagnostics := by
  rw [← decl.place?_node] at hp
  rw [checkStart]
  cases hplace : decl.place? with
  | none =>
    rw [hplace] at hp
    exact absurd hp List.not_mem_nil
  | some place =>
    obtain ⟨place, span⟩ := place
    rw [hplace, Option.map_some, Option.toList_some, List.flatMap_singleton] at hp
    cases place with
    | room name =>
      show fault ∈ ((Place.room name).check names).diagnostics
      rw [Place.check_diagnostics]
      exact List.mem_flatMap.2 ⟨p, hp, hfault⟩
    | nowhere => exact absurd hp List.not_mem_nil
    | inventory => exact absurd hp List.not_mem_nil

/-- What is wrong with a premise that is looked at is wrong with its
declaration. -/
theorem Declaration.mem_diagnostics_of_read {before after : List Declaration} {d : Declaration}
    (hsplit : tree.nodes = before ++ d :: after) (hnew : d.New before) {p : Premise}
    (hp : p ∈ d.read) {fault : Diagnostic} (hfault : fault ∈ p.faults (Names.ofTree tree)) :
    fault ∈ (d.checkWorld (Names.ofTree tree) tree.lexicon).diagnostics ∨
      fault ∈ d.rulePremises.flatMap (Premise.faults (Names.ofTree tree)) := by
  cases d with
  | room decl =>
    obtain ⟨⟨description, hdescription⟩, hp⟩ := mem_read_room hp
    refine .inl ?_
    rw [checkWorld, Checked.diagnostics_map,
      decl.check_diagnostics (Names.ownsRoom_of_new hsplit hnew), hdescription]
    exact List.mem_flatMap.2 ⟨p, hp, hfault⟩
  | item decl =>
    obtain ⟨⟨description, hdescription⟩, hp⟩ := mem_read_item hp
    refine .inl ?_
    rw [checkWorld, Checked.diagnostics_map,
      decl.check_diagnostics (Names.ownsItem_of_new hsplit hnew), hdescription]
    exact ItemDecl.mem_checkStart_diagnostics hp hfault
  | _ => exact .inr (List.mem_flatMap.2 ⟨p, hp, hfault⟩)

namespace Tree

theorem mem_check_diagnostics {d : Declaration} (hd : d ∈ tree.nodes) {fault : Diagnostic}
    (h : fault ∈ (d.checkWorld (Names.ofTree tree) tree.lexicon).diagnostics ∨
      fault ∈ d.rulePremises.flatMap (Premise.faults (Names.ofTree tree))) :
    fault ∈ tree.check.diagnostics := by
  obtain ⟨declaration, hmem, rfl⟩ := List.mem_map.1 hd
  rw [tree.check_diagnostics]
  refine List.mem_append_right _ (List.mem_append_left _ ?_)
  rcases h with h | h
  · exact List.mem_append_left _ (List.mem_flatMap.2 ⟨declaration, hmem, h⟩)
  · exact List.mem_append_right _ (List.mem_flatMap.2 ⟨declaration, hmem, h⟩)

/-- A script of which something is reported does not compile, for that reason. -/
theorem compile_eq_error {fault : Diagnostic} (h : fault ∈ tree.check.diagnostics) :
    tree.compile = .error (.invalid tree.check.diagnostics) := by
  rw [compile]
  cases hcheck : tree.check with
  | valid parts =>
    rw [hcheck] at h
    exact absurd h List.not_mem_nil
  | wrong first others => rfl

theorem report_mem_diagnostics {r : Reference} (hr : tree.LooksUp r)
    (hundefined : ¬ r.Defined tree) : r.report ∈ tree.check.diagnostics := by
  obtain ⟨before, d, after, hsplit, hnew, hread⟩ := hr
  have hfault := Reference.report_mem_faults hundefined
  exact mem_check_diagnostics (mem_nodes_of_split hsplit)
    (Declaration.mem_diagnostics_of_read hsplit hnew (mem_references hread) hfault)

/-! ## What compiles -/

theorem acceptable_of_compile {a : Adventure} (h : tree.compile = .ok a) : tree.Acceptable := by
  obtain ⟨parts, hcheck, -⟩ := exists_parts_of_compile h
  rw [← check_diagnostics_eq_nil, hcheck]
  rfl

/-- In a script that compiles all is looked up but the places of an item that
another one follows. -/
theorem looksUp_of_compile {a : Adventure} (h : tree.compile = .ok a) {d : Declaration}
    (hd : d ∈ tree.nodes) {r : Reference} (hr : r ∈ references d.premises) :
    tree.LooksUp r ∨
      ∃ decl, d = .item decl ∧ r ∈ references (decl.places.dropLast.flatMap Place.premises) := by
  have haccept := acceptable_of_compile h
  have hdistinct := (Names.duplicates_ofTree tree).2 ⟨haccept.roomsDistinct, haccept.itemsDistinct⟩
  obtain ⟨before, after, hsplit⟩ := List.append_of_mem hd
  -- nothing is declared twice and all is described, so that nothing else is left out
  have hnew : d.New before := by
    cases d with
    | room decl => exact Names.room_new_of_distinct hdistinct hsplit
    | item decl => exact Names.item_new_of_distinct hdistinct hsplit
    | _ => trivial
  rcases Declaration.mem_premises (mem_references hr) with hread | hunread
  · exact .inl ⟨before, d, after, hsplit, hnew, mem_references_of_mem hread⟩
  · cases d with
    | room decl =>
      rw [Declaration.unread, if_neg (haccept.roomsDescribed decl hd)] at hunread
      exact absurd hunread List.not_mem_nil
    | item decl =>
      rw [Declaration.unread, if_neg (haccept.itemsDescribed decl hd)] at hunread
      exact .inr ⟨decl, rfl, mem_references_of_mem hunread⟩
    | _ => exact absurd hunread List.not_mem_nil

/-- A reference that is looked up and means nothing is reported where it stands,
whatever else is wrong.  In a script that compiles a reference means nothing only
if it says where an item is, and the item is said to be elsewhere after that. -/
theorem undefined_reported (tree : Tree) :
    (∀ r, tree.LooksUp r → ¬ r.Defined tree →
      ∃ ds, tree.compile = .error (.invalid ds) ∧ r.report ∈ ds) ∧
    ∀ a, tree.compile = .ok a → ∀ d ∈ tree.nodes, ∀ r ∈ references d.premises,
      r.Defined tree ∨
        ∃ decl, d = .item decl ∧ r ∈ references (decl.places.dropLast.flatMap Place.premises) := by
  have hreport : ∀ r, tree.LooksUp r → ¬ r.Defined tree →
      ∃ ds, tree.compile = .error (.invalid ds) ∧ r.report ∈ ds := by
    intro r hr hundefined
    have hmem := report_mem_diagnostics hr hundefined
    exact ⟨_, compile_eq_error hmem, hmem⟩
  refine ⟨hreport, fun a ha d hd r hr => ?_⟩
  rcases looksUp_of_compile ha hd hr with hlooked | hoverridden
  · refine .inl (Decidable.byContradiction fun hundefined => ?_)
    obtain ⟨ds, hds, -⟩ := hreport r hlooked hundefined
    rw [ha] at hds
    exact absurd hds nofun
  · exact .inr hoverridden

end Tree

namespace Sample

def emptyHall : RoomDecl where
  name := piece 0 "Hall"
  description := some "A hall."
  exits := []

/-- It is said to be in the attic, and after that in the hall. -/
def movedLamp : ItemDecl where
  name := piece 1 "Lamp"
  description := some "A lamp."
  clauses := [piece 2 (.inPlace (.room (piece 3 "Attic"))),
    piece 4 (.inPlace (.room (piece 5 "Hall")))]

/-- There is no attic, and the lamp has no description. -/
def astray : Tree where
  declarations := [
    piece 6 (.room { emptyHall with exits := [⟨piece 7 "up", some (piece 8 "Attic")⟩] }),
    piece 9 (.item { movedLamp with description := none })]

def moved : Tree where
  declarations := [piece 6 (.room emptyHall), piece 7 (.item movedLamp)]

end Sample

namespace Tree

theorem undefined_reported_sample :
    (∃ ds, Sample.astray.compile = .error (.invalid ds) ∧
      .plain ⟨8, 9⟩ "undefined room: \"Attic\"" ∈ ds) ∧
    ∃ a, Sample.moved.compile = .ok a ∧
      ∀ d ∈ Sample.moved.nodes, ∀ r ∈ references d.premises, r.Defined Sample.moved ∨
        ∃ decl, d = .item decl ∧ r ∈ references (decl.places.dropLast.flatMap Place.premises) := by
  have hlooked : Sample.astray.LooksUp (.room (Sample.piece 8 "Attic")) :=
    ⟨[], _, _, rfl, List.not_mem_nil, by decide⟩
  have hcompiles : Sample.moved.compilesTo (fun _ => true) = true := by decide +kernel
  obtain ⟨a, ha, -⟩ := exists_of_compilesTo hcompiles
  exact ⟨(undefined_reported Sample.astray).1 _ hlooked (by decide +kernel),
    a, ha, (undefined_reported Sample.moved).2 a ha⟩

/-- Not every reference that means nothing is reported where it stands: the lamp
may be said to be in an attic, as it is said to be in the hall after that. -/
theorem undefined_unreported :
    ¬ ∀ tree : Tree, ∀ d ∈ tree.nodes, ∀ r ∈ references d.premises, ¬ r.Defined tree →
      ∃ ds, tree.compile = .error (.invalid ds) ∧ ∃ fault ∈ ds, fault.span = r.name.span := by
  intro h
  have hlamp : Declaration.item Sample.movedLamp ∈ Sample.moved.nodes :=
    List.mem_cons_of_mem _ List.mem_cons_self
  have hattic : Reference.room (Sample.piece 3 "Attic") ∈
      references (Declaration.item Sample.movedLamp).premises := by decide
  have hcompiles : Sample.moved.compilesTo (fun _ => true) = true := by decide +kernel
  obtain ⟨a, ha, -⟩ := exists_of_compilesTo hcompiles
  obtain ⟨ds, hds, -⟩ := h Sample.moved _ hlamp _ hattic (by decide +kernel)
  rw [ha] at hds
  exact absurd hds nofun

end Tree

end Script
end TextAdventure
