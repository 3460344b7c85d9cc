/-
Scripts in which no name is declared twice.

In such a script every room and every item owns its name, wherever it stands in
the source, and the room that an item follows is one that stands before it.
-/
import Mathlib.Data.List.Nodup
import TextAdventure.Proofs.Script.Names

namespace TextAdventure
namespace Script

open Text

theorem find?_sameInLower_eq_none {l : List String} {name : String} :
    l.find? (sameInLower name) = none ↔ lower name ∉ l.map lower := by
  simp only [List.find?_eq_none, sameInLower, beq_iff_eq, List.mem_map, not_exists, not_and]

theorem Tree.roomNames_eq (tree : Tree) : tree.roomNames =
    (tree.declarations.map (·.node)).filterMap Declaration.roomName? := by
  rw [List.filterMap_map]
  rfl

theorem Tree.itemNames_eq (tree : Tree) : tree.itemNames =
    (tree.declarations.map (·.node)).filterMap Declaration.itemName? := by
  rw [List.filterMap_map]
  rfl

namespace Names

variable {names : Names} {name : Spanned String} {decls : List Declaration}

def roomKeys (names : Names) : List String := (names.rooms.map (·.name)).map lower

def itemKeys (names : Names) : List String := (names.items.map (·.name)).map lower

theorem room?_eq_none {n : String} : names.room? n = none ↔ lower n ∉ names.roomKeys := by
  rw [roomKeys, ← find?_sameInLower_eq_none, ← room?_name, Option.map_eq_none_iff]

theorem item?_eq_none {n : String} : names.item? n = none ↔ lower n ∉ names.itemKeys := by
  rw [itemKeys, ← find?_sameInLower_eq_none, ← item?_name, Option.map_eq_none_iff]

/-! ## Declaring what is new -/

theorem declareRoom_of_new (h : lower name.node ∉ names.roomKeys) :
    names.declareRoom name =
      { names with rooms := names.rooms ++ [⟨name.node, name.span⟩] } := by
  rw [declareRoom, room?_eq_none.2 h]

theorem declareItem_of_new (h : lower name.node ∉ names.itemKeys) :
    names.declareItem name =
      { names with items := names.items ++
        [⟨name.node, name.span, names.rooms.getLast?.map (·.name)⟩] } := by
  rw [declareItem, item?_eq_none.2 h]

theorem roomKeys_declareRoom_of_new (h : lower name.node ∉ names.roomKeys) :
    (names.declareRoom name).roomKeys = names.roomKeys ++ [lower name.node] := by
  rw [declareRoom_of_new h]
  simp [roomKeys]

theorem itemKeys_declareItem_of_new (h : lower name.node ∉ names.itemKeys) :
    (names.declareItem name).itemKeys = names.itemKeys ++ [lower name.node] := by
  rw [declareItem_of_new h]
  simp [itemKeys]

theorem roomKeys_declareItem (names : Names) (name : Spanned String) :
    (names.declareItem name).roomKeys = names.roomKeys := by
  rw [roomKeys, rooms_declareItem, roomKeys]

theorem itemKeys_declareRoom (names : Names) (name : Spanned String) :
    (names.declareRoom name).itemKeys = names.itemKeys := by
  rw [itemKeys, items_declareRoom, itemKeys]

theorem duplicates_declareRoom_of_taken (h : lower name.node ∈ names.roomKeys) :
    (names.declareRoom name).duplicates ≠ [] := by
  rw [declareRoom]
  split
  · exact List.append_ne_nil_of_right_ne_nil _ (List.cons_ne_nil _ _)
  · next hnone => exact absurd h (room?_eq_none.1 hnone)

theorem duplicates_declareItem_of_taken (h : lower name.node ∈ names.itemKeys) :
    (names.declareItem name).duplicates ≠ [] := by
  rw [declareItem]
  split
  · exact List.append_ne_nil_of_right_ne_nil _ (List.cons_ne_nil _ _)
  · next hnone => exact absurd h (item?_eq_none.1 hnone)

theorem duplicates_declare_ne_nil (h : names.duplicates ≠ []) (d : Declaration) :
    (names.declare d).duplicates ≠ [] := by
  cases d with
  | room decl =>
    rw [declare, declareRoom]
    split
    · exact List.append_ne_nil_of_left_ne_nil h _
    · exact h
  | item decl =>
    rw [declare, declareItem]
    split
    · exact List.append_ne_nil_of_left_ne_nil h _
    · exact h
  | _ => exact h

theorem duplicates_foldl_declare_ne_nil (h : names.duplicates ≠ []) (decls : List Declaration) :
    (decls.foldl declare names).duplicates ≠ [] := by
  induction decls generalizing names with
  | nil => exact h
  | cons d rest ih => exact ih (duplicates_declare_ne_nil h d)

theorem nodup_concat {l : List String} {a : String} (h : l.Nodup) (ha : a ∉ l) :
    (l ++ [a]).Nodup := by
  rw [List.nodup_append]
  refine ⟨h, List.nodup_singleton a, fun b hb c hc heq => ?_⟩
  rw [List.mem_singleton.1 hc] at heq
  exact ha (heq ▸ hb)

/-- Nothing is complained of when the names that are declared one after the
other are new to those before and to each other. -/
theorem duplicates_foldl_declare (hnames : names.duplicates = []) (hrooms : names.roomKeys.Nodup)
    (hitems : names.itemKeys.Nodup) :
    (decls.foldl declare names).duplicates = [] ↔
      (names.roomKeys ++ (decls.filterMap Declaration.roomName?).map lower).Nodup ∧
      (names.itemKeys ++ (decls.filterMap Declaration.itemName?).map lower).Nodup := by
  induction decls generalizing names with
  | nil => simp [hnames, hrooms, hitems]
  | cons d rest ih =>
    rw [List.foldl_cons]
    cases d with
    | room decl =>
      by_cases hnew : lower decl.name.node ∈ names.roomKeys
      · have htaken := duplicates_declareRoom_of_taken hnew
        refine iff_of_false (duplicates_foldl_declare_ne_nil htaken rest) fun h => ?_
        have hmem : lower decl.name.node ∈ ((Declaration.room decl :: rest).filterMap
            Declaration.roomName?).map lower := List.mem_cons_self
        exact (List.disjoint_of_nodup_append h.1) hnew hmem
      · have hkeys := roomKeys_declareRoom_of_new hnew
        have hnodup : (names.declareRoom decl.name).roomKeys.Nodup := by
          rw [hkeys]
          exact nodup_concat hrooms hnew
        have hsame := itemKeys_declareRoom names decl.name
        rw [declare, ih (by rw [declareRoom_of_new hnew]; exact hnames) hnodup
          (by rw [hsame]; exact hitems), hkeys, hsame, List.append_assoc]
        rfl
    | item decl =>
      by_cases hnew : lower decl.name.node ∈ names.itemKeys
      · have htaken := duplicates_declareItem_of_taken hnew
        refine iff_of_false (duplicates_foldl_declare_ne_nil htaken rest) fun h => ?_
        have hmem : lower decl.name.node ∈ ((Declaration.item decl :: rest).filterMap
            Declaration.itemName?).map lower := List.mem_cons_self
        exact (List.disjoint_of_nodup_append h.2) hnew hmem
      · have hkeys := itemKeys_declareItem_of_new hnew
        have hnodup : (names.declareItem decl.name).itemKeys.Nodup := by
          rw [hkeys]
          exact nodup_concat hitems hnew
        have hsame := roomKeys_declareItem names decl.name
        rw [declare, ih (by rw [declareItem_of_new hnew]; exact hnames)
          (by rw [hsame]; exact hrooms) hnodup, hkeys, hsame, List.append_assoc]
        rfl
    | _ => exact ih hnames hrooms hitems

theorem duplicates_ofTree (tree : Tree) : (ofTree tree).duplicates = [] ↔
    (tree.roomNames.map lower).Nodup ∧ (tree.itemNames.map lower).Nodup := by
  have hempty : empty.roomKeys.Nodup ∧ empty.itemKeys.Nodup := ⟨List.nodup_nil, List.nodup_nil⟩
  rw [ofTree, duplicates_foldl_declare rfl hempty.1 hempty.2, tree.roomNames_eq, tree.itemNames_eq]
  rfl

/-! ## What is declared stays -/

theorem room?_foldl_declare {n : String} {d : DeclaredRoom} (h : names.room? n = some d)
    (decls : List Declaration) : (decls.foldl declare names).room? n = some d := by
  induction decls generalizing names with
  | nil => exact h
  | cons decl rest ih =>
    refine ih ?_
    cases decl with
    | room decl =>
      rw [declare, declareRoom]
      split
      · exact h
      · show List.find? _ (names.rooms ++ _) = some d
        rw [List.find?_append, show names.rooms.find? _ = some d from h, Option.some_or]
    | item decl =>
      have hsame : (names.declareItem decl.name).room? n = names.room? n := by
        rw [room?, rooms_declareItem]
        rfl
      rw [declare, hsame, h]
    | _ => exact h

theorem item?_foldl_declare {n : String} {d : DeclaredItem} (h : names.item? n = some d)
    (decls : List Declaration) : (decls.foldl declare names).item? n = some d := by
  induction decls generalizing names with
  | nil => exact h
  | cons decl rest ih =>
    refine ih ?_
    cases decl with
    | room decl =>
      have hsame : (names.declareRoom decl.name).item? n = names.item? n := by
        rw [item?, items_declareRoom]
        rfl
      rw [declare, hsame, h]
    | item decl =>
      rw [declare, declareItem]
      split
      · exact h
      · show List.find? _ (names.items ++ _) = some d
        rw [List.find?_append, show names.items.find? _ = some d from h, Option.some_or]
    | _ => exact h

/-! ## Who owns a name -/

theorem room?_declared_eq_none {n : String} : (decls.foldl declare empty).room? n = none ↔
    lower n ∉ (decls.filterMap Declaration.roomName?).map lower := by
  rw [← find?_sameInLower_eq_none, ← Option.map_eq_none_iff, room?_name, rooms_foldl_declare,
    find?_foldl_addName]
  rfl

theorem item?_declared_eq_none {n : String} : (decls.foldl declare empty).item? n = none ↔
    lower n ∉ (decls.filterMap Declaration.itemName?).map lower := by
  rw [← find?_sameInLower_eq_none, ← Option.map_eq_none_iff, item?_name, items_foldl_declare,
    find?_foldl_addName]
  rfl

/-- There is a last room once a room is declared. -/
theorem rooms_declared_eq_nil : (decls.foldl declare empty).rooms = [] ↔
    decls.filterMap Declaration.roomName? = [] := by
  constructor
  · intro h
    cases hnames : decls.filterMap Declaration.roomName? with
    | nil => rfl
    | cons name rest =>
      have hnone : (decls.foldl declare empty).room? name = none := by rw [room?, h, List.find?_nil]
      rw [room?_declared_eq_none, hnames] at hnone
      exact absurd List.mem_cons_self hnone
  · intro h
    have hnames : (decls.foldl declare empty).rooms.map (·.name) = [] := by
      rw [rooms_foldl_declare, h]
      rfl
    exact List.map_eq_nil_iff.1 hnames

variable {tree : Tree}

/-- A room is found by its name as it was declared, if no room before it has that
name. -/
theorem room?_of_new {decl : RoomDecl} {before after : List Declaration}
    (hsplit : tree.declarations.map (·.node) = before ++ .room decl :: after)
    (hfirst : lower decl.name.node ∉ (before.filterMap Declaration.roomName?).map lower) :
    (ofTree tree).room? decl.name.node = some ⟨decl.name.node, decl.name.span⟩ := by
  have hnew : lower decl.name.node ∉ (before.foldl declare empty).roomKeys := by
    rw [← room?_eq_none, room?_declared_eq_none]
    exact hfirst
  have hfound : ((before.foldl declare empty).declareRoom decl.name).room? decl.name.node =
      some ⟨decl.name.node, decl.name.span⟩ := by
    have hnone := room?_eq_none.2 hnew
    rw [declareRoom_of_new hnew, room?, List.find?_append,
      show List.find? _ (before.foldl declare empty).rooms = none from hnone, Option.none_or,
      List.find?_singleton, if_pos (beq_self_eq_true _)]
  rw [ofTree, hsplit, List.foldl_append, List.foldl_cons]
  exact room?_foldl_declare hfound after

theorem ownsRoom_of_new {decl : RoomDecl} {before after : List Declaration}
    (hsplit : tree.declarations.map (·.node) = before ++ .room decl :: after)
    (hfirst : lower decl.name.node ∉ (before.filterMap Declaration.roomName?).map lower) :
    (ofTree tree).ownsRoom decl.name = true := by
  rw [ownsRoom, room?_of_new hsplit hfirst]
  exact beq_self_eq_true decl.name.span

/-- An item is found by its name as it was declared, with the last of the rooms
that stand before it, if no item before it has that name. -/
theorem item?_of_new {decl : ItemDecl} {before after : List Declaration}
    (hsplit : tree.declarations.map (·.node) = before ++ .item decl :: after)
    (hfirst : lower decl.name.node ∉ (before.filterMap Declaration.itemName?).map lower) :
    (ofTree tree).item? decl.name.node = some ⟨decl.name.node, decl.name.span,
      (before.foldl declare empty).rooms.getLast?.map (·.name)⟩ := by
  have hnew : lower decl.name.node ∉ (before.foldl declare empty).itemKeys := by
    rw [← item?_eq_none, item?_declared_eq_none]
    exact hfirst
  have hfound : ((before.foldl declare empty).declareItem decl.name).item? decl.name.node =
      some ⟨decl.name.node, decl.name.span,
        (before.foldl declare empty).rooms.getLast?.map (·.name)⟩ := by
    have hnone := item?_eq_none.2 hnew
    rw [declareItem_of_new hnew, item?, List.find?_append,
      show List.find? _ (before.foldl declare empty).items = none from hnone, Option.none_or,
      List.find?_singleton, if_pos (beq_self_eq_true _)]
  rw [ofTree, hsplit, List.foldl_append, List.foldl_cons]
  exact item?_foldl_declare hfound after

theorem ownsItem_of_new {decl : ItemDecl} {before after : List Declaration}
    (hsplit : tree.declarations.map (·.node) = before ++ .item decl :: after)
    (hfirst : lower decl.name.node ∉ (before.filterMap Declaration.itemName?).map lower) :
    (ofTree tree).ownsItem decl.name = true := by
  rw [ownsItem, item?_of_new hsplit hfirst]
  exact beq_self_eq_true decl.name.span

/-! ## Every declaration of its own name -/

theorem room_new_of_distinct (h : (ofTree tree).duplicates = []) {decl : RoomDecl}
    {before after : List Declaration}
    (hsplit : tree.declarations.map (·.node) = before ++ .room decl :: after) :
    lower decl.name.node ∉ (before.filterMap Declaration.roomName?).map lower := by
  have hdistinct := ((duplicates_ofTree tree).1 h).1
  rw [tree.roomNames_eq, hsplit, List.filterMap_append, List.map_append] at hdistinct
  exact fun hmem => List.disjoint_of_nodup_append hdistinct hmem List.mem_cons_self

theorem item_new_of_distinct (h : (ofTree tree).duplicates = []) {decl : ItemDecl}
    {before after : List Declaration}
    (hsplit : tree.declarations.map (·.node) = before ++ .item decl :: after) :
    lower decl.name.node ∉ (before.filterMap Declaration.itemName?).map lower := by
  have hdistinct := ((duplicates_ofTree tree).1 h).2
  rw [tree.itemNames_eq, hsplit, List.filterMap_append, List.map_append] at hdistinct
  exact fun hmem => List.disjoint_of_nodup_append hdistinct hmem List.mem_cons_self

theorem ownsRoom_of_distinct (h : (ofTree tree).duplicates = []) {decl : RoomDecl}
    (hdecl : Declaration.room decl ∈ tree.declarations.map (·.node)) :
    (ofTree tree).ownsRoom decl.name = true := by
  obtain ⟨before, after, hsplit⟩ := List.append_of_mem hdecl
  exact ownsRoom_of_new hsplit (room_new_of_distinct h hsplit)

theorem ownsItem_of_distinct (h : (ofTree tree).duplicates = []) {decl : ItemDecl}
    (hdecl : Declaration.item decl ∈ tree.declarations.map (·.node)) :
    (ofTree tree).ownsItem decl.name = true := by
  obtain ⟨before, after, hsplit⟩ := List.append_of_mem hdecl
  exact ownsItem_of_new hsplit (item_new_of_distinct h hsplit)

/-! ## Rooms in their order -/

/-- Names of which no two are the same in lower case are all kept. -/
theorem foldl_addName_of_nodup {more known : List String}
    (h : ((known ++ more).map lower).Nodup) : more.foldl addName known = known ++ more := by
  induction more generalizing known with
  | nil => rw [List.foldl_nil, List.append_nil]
  | cons name rest ih =>
    have hnew : known.find? (sameInLower name) = none := by
      rw [find?_sameInLower_eq_none]
      rw [List.map_append] at h
      exact fun hmem => List.disjoint_of_nodup_append h hmem List.mem_cons_self
    have hadd : addName known name = known ++ [name] := by rw [addName, hnew]; rfl
    rw [List.append_cons] at h
    rw [List.foldl_cons, hadd, ih h, ← List.append_cons]

theorem rooms_declared_of_distinct (h : (ofTree tree).duplicates = [])
    {before after : List Declaration} (hsplit : tree.declarations.map (·.node) = before ++ after) :
    (before.foldl declare empty).rooms.map (·.name) = before.filterMap Declaration.roomName? := by
  have hdistinct := ((duplicates_ofTree tree).1 h).1
  rw [tree.roomNames_eq, hsplit, List.filterMap_append, List.map_append] at hdistinct
  rw [rooms_foldl_declare]
  exact foldl_addName_of_nodup (List.nodup_append.1 hdistinct).1

/-- The room that an item follows is the last one before it. -/
theorem preceding_of_distinct (h : (ofTree tree).duplicates = []) {decl : ItemDecl}
    {before after : List Declaration}
    (hsplit : tree.declarations.map (·.node) = before ++ .item decl :: after) :
    (ofTree tree).preceding decl.name.node =
      (before.filterMap Declaration.roomName?).getLast? := by
  rw [preceding, item?_of_new hsplit (item_new_of_distinct h hsplit), Option.bind_some,
    ← List.getLast?_map, rooms_declared_of_distinct h hsplit]

/-- An item follows a room if one is declared before it. -/
theorem preceding_eq_none (h : (ofTree tree).duplicates = []) {decl : ItemDecl}
    {before after : List Declaration}
    (hsplit : tree.declarations.map (·.node) = before ++ .item decl :: after) :
    (ofTree tree).preceding decl.name.node = none ↔
      before.filterMap Declaration.roomName? = [] := by
  rw [preceding_of_distinct h hsplit, List.getLast?_eq_none_iff]

end Names

end Script
end TextAdventure
