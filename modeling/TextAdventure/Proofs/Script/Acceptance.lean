/-
Which scripts compile.

The checks are spread over the names, the rooms and items, and the rules, and
the world checks some things again when it is built.  Together they come to one
condition on the script, and what passes the checks is never refused later.
-/
import TextAdventure.Proofs.Script.Assembly
import TextAdventure.Proofs.Script.Reports

namespace TextAdventure
namespace Script

open Text

/-! ## The condition -/

/-- The declarations of a script, wherever they stand. -/
def Tree.nodes (tree : Tree) : List Declaration := tree.declarations.map (·.node)

theorem Tree.mem_nodes_of_split {tree : Tree} {before after : List Declaration} {d : Declaration}
    (hsplit : tree.nodes = before ++ d :: after) : d ∈ tree.nodes := by
  rw [hsplit]
  exact List.mem_append_right _ List.mem_cons_self

/-- The places that are said of an item, in order. -/
def ItemDecl.places (decl : ItemDecl) : List Place :=
  decl.clauses.filterMap fun clause =>
    match clause.node with
    | .inPlace place => some place
    | _ => none

/-- Whether it is said of an item that it can be carried, or what else it is
called. -/
def ItemDecl.Carriable (decl : ItemDecl) : Prop :=
  ∃ clause ∈ decl.clauses, clause.node = .portable ∨ ∃ name, clause.node = .otherName name

/-- Whether an item has somewhere to start, given what is declared before it.
Of several places the last one counts. -/
def ItemDecl.Placed (rooms : List String) (before : List Declaration) (decl : ItemDecl) : Prop :=
  match decl.places.getLast? with
  | some (.room name) => ∃ room ∈ rooms, lower room = lower name.node
  | some .inventory => decl.Carriable
  | some .nowhere => True
  | none => ∃ room, Declaration.room room ∈ before

/-- Whether a script says all that it has to, and nothing that it cannot. -/
structure Tree.Acceptable (tree : Tree) : Prop where
  someRoom : ∃ decl, Declaration.room decl ∈ tree.nodes
  roomsDistinct : (tree.roomNames.map lower).Nodup
  itemsDistinct : (tree.itemNames.map lower).Nodup
  roomsDescribed : ∀ decl, Declaration.room decl ∈ tree.nodes → decl.description ≠ none
  itemsDescribed : ∀ decl, Declaration.item decl ∈ tree.nodes → decl.description ≠ none
  exits : ∀ decl, Declaration.room decl ∈ tree.nodes →
    ∀ p ∈ decl.premises, p.Holds tree.roomNames tree.itemNames
  placed : ∀ before decl after, tree.nodes = before ++ .item decl :: after →
    decl.Placed tree.roomNames before
  /-- The starts are among these, and every clause of every rule. -/
  rules : ∀ d ∈ tree.nodes, ∀ p ∈ d.rulePremises, p.Holds tree.roomNames tree.itemNames

/-! ## Premises -/

theorem filterMap_roomName?_eq_nil {ds : List Declaration} :
    ds.filterMap Declaration.roomName? = [] ↔ ¬ ∃ decl, Declaration.room decl ∈ ds := by
  rw [List.filterMap_eq_nil_iff]
  constructor
  · rintro h ⟨decl, hdecl⟩
    exact absurd (h _ hdecl) (Option.some_ne_none _)
  · intro h d hd
    cases d with
    | room decl => exact absurd ⟨decl, hd⟩ h
    | _ => rfl

namespace Names

variable {tree : Tree} {name : Spanned String}

theorem roomRef_diagnostics_eq_nil : ((ofTree tree).roomRef name).diagnostics = [] ↔
    ∃ room ∈ tree.roomNames, lower room = lower name.node := by
  have hnone : (ofTree tree).room? name.node = none ↔ _ := room?_declared_eq_none
  rw [← tree.roomNames_eq] at hnone
  rw [← List.mem_map, roomRef]
  cases hfound : (ofTree tree).room? name.node with
  | some d =>
    refine iff_of_true rfl (Decidable.byContradiction fun hmem => ?_)
    exact absurd (hnone.2 hmem) (by rw [hfound]; exact Option.some_ne_none d)
  | none => exact iff_of_false (List.cons_ne_nil _ _) (hnone.1 hfound)

theorem itemRef_diagnostics_eq_nil : ((ofTree tree).itemRef name).diagnostics = [] ↔
    ∃ item ∈ tree.itemNames, lower item = lower name.node := by
  have hnone : (ofTree tree).item? name.node = none ↔ _ := item?_declared_eq_none
  rw [← tree.itemNames_eq] at hnone
  rw [← List.mem_map, itemRef]
  cases hfound : (ofTree tree).item? name.node with
  | some d =>
    refine iff_of_true rfl (Decidable.byContradiction fun hmem => ?_)
    exact absurd (hnone.2 hmem) (by rw [hfound]; exact Option.some_ne_none d)
  | none => exact iff_of_false (List.cons_ne_nil _ _) (hnone.1 hfound)

end Names

/-- A premise is complained of unless it holds. -/
theorem Premise.faults_eq_nil {tree : Tree} (p : Premise) :
    p.faults (Names.ofTree tree) = [] ↔ p.Holds tree.roomNames tree.itemNames := by
  cases p with
  | room name => exact Names.roomRef_diagnostics_eq_nil
  | item name => exact Names.itemRef_diagnostics_eq_nil
  | position n =>
    rw [faults, Holds, checkPosition]
    split
    · next h => exact iff_of_true rfl h
    · next h => exact iff_of_false (List.cons_ne_nil _ _) h
  | percent n =>
    rw [faults, Holds]
    split
    · next h => exact iff_of_true rfl h
    · next h => exact iff_of_false (List.cons_ne_nil _ _) h
  | limit n =>
    rw [faults, Holds]
    split
    · next h => exact iff_of_true rfl h
    · next h => exact iff_of_false (List.cons_ne_nil _ _) h

theorem flatMap_faults_eq_nil {tree : Tree} {ps : List Premise} :
    ps.flatMap (Premise.faults (Names.ofTree tree)) = [] ↔
      ∀ p ∈ ps, p.Holds tree.roomNames tree.itemNames := by
  rw [List.flatMap_eq_nil_iff]
  exact forall₂_congr fun p _ => p.faults_eq_nil

/-! ## Rooms and items -/

theorem checkWorld_room_eq_nil {tree : Tree} {decl : RoomDecl}
    (h : (Names.ofTree tree).duplicates = []) (hdecl : Declaration.room decl ∈ tree.nodes) :
    ((Declaration.room decl).checkWorld (Names.ofTree tree) tree.lexicon).diagnostics = [] ↔
      decl.description ≠ none ∧ ∀ p ∈ decl.premises, p.Holds tree.roomNames tree.itemNames := by
  rw [Declaration.checkWorld, Checked.diagnostics_map,
    decl.check_diagnostics (Names.ownsRoom_of_distinct h hdecl)]
  cases decl.description with
  | none => exact iff_of_false (List.cons_ne_nil _ _) fun hboth => hboth.1 rfl
  | some description =>
    rw [flatMap_faults_eq_nil]
    exact (and_iff_right (Option.some_ne_none _)).symm

namespace ItemDecl

theorem isPortable_eq_true {decl : ItemDecl} : decl.isPortable = true ↔ decl.Carriable := by
  rw [isPortable, List.any_eq_true]
  refine exists_congr fun clause => and_congr_right fun _ => ?_
  cases clause.node <;> simp

theorem place?_node (decl : ItemDecl) : decl.place?.map (·.node) = decl.places.getLast? := by
  rw [place?, ← List.getLast?_map, List.map_filterMap, places]
  congr 2
  funext clause
  cases clause.node <;> rfl

theorem checkStart_diagnostics_eq_nil {tree : Tree} {decl : ItemDecl}
    (h : (Names.ofTree tree).duplicates = []) {before after : List Declaration}
    (hsplit : tree.nodes = before ++ .item decl :: after) :
    (decl.checkStart (Names.ofTree tree)).diagnostics = [] ↔
      decl.Placed tree.roomNames before := by
  have hplace := decl.place?_node
  rw [Placed, ← hplace, checkStart]
  cases decl.place? with
  | some place =>
    obtain ⟨place, span⟩ := place
    cases place with
    | room name =>
      show ((Place.room name).check (Names.ofTree tree)).diagnostics = [] ↔ _
      rw [Place.check, Checked.diagnostics_map]
      exact Names.roomRef_diagnostics_eq_nil
    | nowhere => exact iff_of_true rfl trivial
    | inventory =>
      show Checked.diagnostics (if decl.isPortable = true then _ else _) = [] ↔ decl.Carriable
      rw [← isPortable_eq_true]
      split
      · next hportable => exact iff_of_true rfl hportable
      · next hfixed => exact iff_of_false (List.cons_ne_nil _ _) hfixed
  | none =>
    have hpreceding := Names.preceding_eq_none h hsplit
    rw [filterMap_roomName?_eq_nil] at hpreceding
    dsimp only
    cases hroom : (Names.ofTree tree).preceding decl.name.node with
    | none => exact iff_of_false (List.cons_ne_nil _ _) (hpreceding.1 hroom)
    | some room =>
      refine iff_of_true rfl (Classical.byContradiction fun hnone => ?_)
      exact absurd (hpreceding.2 hnone) (by rw [hroom]; exact Option.some_ne_none room)

end ItemDecl

theorem checkWorld_item_eq_nil {tree : Tree} {decl : ItemDecl}
    (h : (Names.ofTree tree).duplicates = []) {before after : List Declaration}
    (hsplit : tree.nodes = before ++ .item decl :: after) :
    ((Declaration.item decl).checkWorld (Names.ofTree tree) tree.lexicon).diagnostics = [] ↔
      decl.description ≠ none ∧ decl.Placed tree.roomNames before := by
  have hdecl := Tree.mem_nodes_of_split hsplit
  rw [Declaration.checkWorld, Checked.diagnostics_map,
    decl.check_diagnostics (Names.ownsItem_of_distinct h hdecl)]
  cases decl.description with
  | none => exact iff_of_false (List.cons_ne_nil _ _) fun hboth => hboth.1 rfl
  | some description =>
    rw [← decl.checkStart_diagnostics_eq_nil h hsplit]
    exact (and_iff_right (Option.some_ne_none _)).symm

/-! ## Checking -/

namespace Tree

theorem rooms_ofTree_isEmpty (tree : Tree) :
    (Names.ofTree tree).rooms.isEmpty = false ↔ ∃ decl, Declaration.room decl ∈ tree.nodes := by
  have hnil : (Names.ofTree tree).rooms = [] ↔ tree.nodes.filterMap Declaration.roomName? = [] :=
    Names.rooms_declared_eq_nil
  rw [filterMap_roomName?_eq_nil, ← List.isEmpty_iff] at hnil
  rw [← Bool.not_eq_true, hnil, not_not]

/-- Without a name that is declared twice, there is nothing wrong with the world
when there is nothing wrong with any of its rooms and items. -/
theorem checkWorld_diagnostics_eq_nil {tree : Tree} (h : (Names.ofTree tree).duplicates = []) :
    (∀ d ∈ tree.nodes, (d.checkWorld (Names.ofTree tree) tree.lexicon).diagnostics = []) ↔
      (∀ decl, Declaration.room decl ∈ tree.nodes → decl.description ≠ none ∧
        ∀ p ∈ decl.premises, p.Holds tree.roomNames tree.itemNames) ∧
      ∀ before decl after, tree.nodes = before ++ .item decl :: after →
        decl.description ≠ none ∧ decl.Placed tree.roomNames before := by
  constructor
  · intro hall
    refine ⟨fun decl hdecl => (checkWorld_room_eq_nil h hdecl).1 (hall _ hdecl), ?_⟩
    intro before decl after hsplit
    have hdecl := Tree.mem_nodes_of_split hsplit
    exact (checkWorld_item_eq_nil h hsplit).1 (hall _ hdecl)
  · rintro ⟨hrooms, hitems⟩ d hd
    cases d with
    | room decl => exact (checkWorld_room_eq_nil h hd).2 (hrooms decl hd)
    | item decl =>
      obtain ⟨before, after, hsplit⟩ := List.append_of_mem hd
      exact (checkWorld_item_eq_nil h hsplit).2 (hitems before decl after hsplit)
    | _ => rfl

theorem check_diagnostics_eq_nil (tree : Tree) : tree.check.diagnostics = [] ↔ tree.Acceptable := by
  have hnodes : ∀ P : Declaration → Prop,
      (∀ d ∈ tree.declarations, P d.node) ↔ ∀ d ∈ tree.nodes, P d :=
    fun P => List.forall_mem_map.symm
  have hrooms : (if (Names.ofTree tree).rooms.isEmpty then
      [Diagnostic.plain ⟨0, 0⟩ "script declares no rooms"] else []) = [] ↔
        ∃ decl, Declaration.room decl ∈ tree.nodes := by
    rw [← rooms_ofTree_isEmpty]
    cases (Names.ofTree tree).rooms.isEmpty with
    | true => exact iff_of_false (List.cons_ne_nil _ _) Bool.noConfusion
    | false => exact iff_of_true rfl rfl
  rw [tree.check_diagnostics, List.append_eq_nil_iff, List.append_eq_nil_iff,
    List.append_eq_nil_iff, List.flatMap_eq_nil_iff, List.flatMap_eq_nil_iff, hrooms,
    hnodes fun d => (d.checkWorld (Names.ofTree tree) tree.lexicon).diagnostics = [],
    hnodes fun d => d.rulePremises.flatMap (Premise.faults (Names.ofTree tree)) = []]
  simp only [flatMap_faults_eq_nil]
  constructor
  · rintro ⟨hdistinct, ⟨hworld, hrules⟩, hsome⟩
    obtain ⟨hroomKeys, hitemKeys⟩ := (Names.duplicates_ofTree tree).1 hdistinct
    obtain ⟨hroom, hitem⟩ := (checkWorld_diagnostics_eq_nil hdistinct).1 hworld
    refine ⟨hsome, hroomKeys, hitemKeys, fun decl hdecl => (hroom decl hdecl).1, ?_,
      fun decl hdecl => (hroom decl hdecl).2,
      fun before decl after hsplit => (hitem before decl after hsplit).2, hrules⟩
    intro decl hdecl
    obtain ⟨before, after, hsplit⟩ := List.append_of_mem hdecl
    exact (hitem before decl after hsplit).1
  · intro h
    have hdistinct := (Names.duplicates_ofTree tree).2 ⟨h.roomsDistinct, h.itemsDistinct⟩
    refine ⟨hdistinct, ⟨(checkWorld_diagnostics_eq_nil hdistinct).2 ⟨?_, ?_⟩, h.rules⟩, h.someRoom⟩
    · exact fun decl hdecl => ⟨h.roomsDescribed decl hdecl, h.exits decl hdecl⟩
    · intro before decl after hsplit
      have hdecl := Tree.mem_nodes_of_split hsplit
      exact ⟨h.itemsDescribed decl hdecl, h.placed before decl after hsplit⟩

/-- A script compiles just if it says all that it has to and nothing that it
cannot.  If it does not compile there is something that is reported.  What passes
the checks is never refused when the world is built. -/
theorem compiles_iff_acceptable (tree : Tree) :
    ((∃ a, tree.compile = .ok a) ↔ tree.Acceptable) ∧
    (¬ tree.Acceptable → ∃ first others, tree.compile = .error (.invalid (first :: others)) ∧
      tree.check = .wrong first others) ∧
    ∀ parts, tree.check = .valid parts → ∃ a, tree.assemble parts = .ok a := by
  have hvalid : ∀ parts, tree.check = .valid parts → ∃ a, tree.compile = .ok a := by
    intro parts h
    obtain ⟨a, ha⟩ := exists_assemble h
    exact ⟨a, by rw [compile, h]; dsimp only; rw [ha]⟩
  have hwrong : ∀ first others, tree.check = .wrong first others →
      tree.compile = .error (.invalid (first :: others)) := by
    intro first others h
    rw [compile, h]
  refine ⟨?_, ?_, fun parts => exists_assemble⟩
  · rw [← check_diagnostics_eq_nil, Checked.diagnostics_eq_nil]
    constructor
    · rintro ⟨a, ha⟩
      cases hcheck : tree.check with
      | valid parts => exact ⟨parts, rfl⟩
      | wrong first others =>
        rw [hwrong first others hcheck] at ha
        exact absurd ha nofun
    · rintro ⟨parts, hparts⟩
      exact hvalid parts hparts
  · intro hnot
    cases hcheck : tree.check with
    | valid parts =>
      exact absurd (tree.check_diagnostics_eq_nil.1 (by rw [hcheck]; rfl)) hnot
    | wrong first others => exact ⟨first, others, hwrong first others hcheck, rfl⟩

end Tree

end Script
end TextAdventure
