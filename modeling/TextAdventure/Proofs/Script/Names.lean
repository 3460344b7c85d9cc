/-
The names that a script declares, as they are found again.

Looking a name up among the declared ones finds the first declaration in the
script that is the same in lower case, although names are declared one after the
other and one that is taken is not declared again.
-/
import TextAdventure.Proofs.Script.Checked
import TextAdventure.Proofs.Script.Meaning
import TextAdventure.Script.Names

namespace TextAdventure
namespace Script

open Text

/-! ## Lists of names without repetition -/

/-- Add a name, unless it is taken. -/
def addName (names : List String) (name : String) : List String :=
  if (names.find? (sameInLower name)).isSome then names else names ++ [name]

theorem find?_addName (names : List String) (added name : String) :
    (addName names added).find? (sameInLower name) =
      (names.find? (sameInLower name)).or ([added].find? (sameInLower name)) := by
  unfold addName
  split
  · next htaken =>
    by_cases h : sameInLower name added = true
    · -- who took the added name is found by `name` too
      have hlower : lower added = lower name := eq_of_beq h
      have heq : sameInLower name = sameInLower added := by
        funext n
        rw [sameInLower, sameInLower, hlower]
      rw [heq, Option.or_of_isSome htaken]
    · rw [List.find?_singleton, if_neg h, Option.or_none]
  · rw [List.find?_append]

theorem find?_foldl_addName (more names : List String) (name : String) :
    (more.foldl addName names).find? (sameInLower name) =
      (names.find? (sameInLower name)).or (more.find? (sameInLower name)) := by
  induction more generalizing names with
  | nil => rw [List.foldl_nil, List.find?_nil, Option.or_none]
  | cons added rest ih =>
    rw [List.foldl_cons, ih, find?_addName, Option.or_assoc, ← List.find?_append,
      List.singleton_append]

/-! ## Declared names -/

namespace Names

theorem room?_name (names : Names) (name : String) :
    (names.room? name).map (·.name) = (names.rooms.map (·.name)).find? (sameInLower name) := by
  rw [List.find?_map]
  rfl

theorem item?_name (names : Names) (name : String) :
    (names.item? name).map (·.name) = (names.items.map (·.name)).find? (sameInLower name) := by
  rw [List.find?_map]
  rfl

theorem rooms_declareRoom (names : Names) (name : Spanned String) :
    (names.declareRoom name).rooms.map (·.name) = addName (names.rooms.map (·.name)) name.node := by
  rw [addName, ← room?_name, Option.isSome_map]
  unfold declareRoom
  split
  · next h => rw [h]; rfl
  · next h => rw [h]; simp

theorem items_declareItem (names : Names) (name : Spanned String) :
    (names.declareItem name).items.map (·.name) = addName (names.items.map (·.name)) name.node := by
  rw [addName, ← item?_name, Option.isSome_map]
  unfold declareItem
  split
  · next h => rw [h]; rfl
  · next h => rw [h]; simp

theorem rooms_declareItem (names : Names) (name : Spanned String) :
    (names.declareItem name).rooms = names.rooms := by
  unfold declareItem
  split <;> rfl

theorem items_declareRoom (names : Names) (name : Spanned String) :
    (names.declareRoom name).items = names.items := by
  unfold declareRoom
  split <;> rfl

theorem rooms_foldl_declare (decls : List Declaration) (names : Names) :
    (decls.foldl declare names).rooms.map (·.name) =
      (decls.filterMap Declaration.roomName?).foldl addName (names.rooms.map (·.name)) := by
  induction decls generalizing names with
  | nil => rfl
  | cons decl rest ih =>
    rw [List.foldl_cons, ih]
    cases decl with
    | room decl => rw [declare, rooms_declareRoom]; rfl
    | item decl => rw [declare, rooms_declareItem]; rfl
    | _ => rfl

theorem items_foldl_declare (decls : List Declaration) (names : Names) :
    (decls.foldl declare names).items.map (·.name) =
      (decls.filterMap Declaration.itemName?).foldl addName (names.items.map (·.name)) := by
  induction decls generalizing names with
  | nil => rfl
  | cons decl rest ih =>
    rw [List.foldl_cons, ih]
    cases decl with
    | room decl => rw [declare, items_declareRoom]; rfl
    | item decl => rw [declare, items_declareItem]; rfl
    | _ => rfl

/-- A name is found as the first declaration that is the same in lower case. -/
theorem room?_ofTree (tree : Tree) (name : String) :
    ((ofTree tree).room? name).map (·.name) = tree.roomNames.find? (sameInLower name) := by
  rw [room?_name, ofTree, rooms_foldl_declare, find?_foldl_addName, Tree.roomNames,
    List.filterMap_map]
  rfl

theorem item?_ofTree (tree : Tree) (name : String) :
    ((ofTree tree).item? name).map (·.name) = tree.itemNames.find? (sameInLower name) := by
  rw [item?_name, ofTree, items_foldl_declare, find?_foldl_addName, Tree.itemNames,
    List.filterMap_map]
  rfl

/-! ## References -/

theorem roomRef_eq_valid {names : Names} {name : Spanned String} {n : String} :
    names.roomRef name = .valid n ↔ ∃ d, names.room? name.node = some d ∧ d.name = n := by
  unfold roomRef
  cases h : names.room? name.node with
  | some d => simp
  | none => simp [Checked.error_ne_valid]

theorem itemRef_eq_valid {names : Names} {name : Spanned String} {n : String} :
    names.itemRef name = .valid n ↔ ∃ d, names.item? name.node = some d ∧ d.name = n := by
  unfold itemRef
  cases h : names.item? name.node with
  | some d => simp
  | none => simp [Checked.error_ne_valid]

/-- A reference to a room comes to the name that the reference stands for. -/
theorem sense_of_roomRef {tree : Tree} {name : Spanned String} {n : String}
    (h : (ofTree tree).roomRef name = .valid n) : tree.sense.room name.node = n := by
  obtain ⟨d, hd, rfl⟩ := roomRef_eq_valid.1 h
  have hfind := room?_ofTree tree name.node
  rw [hd] at hfind
  show (tree.roomNames.find? (sameInLower name.node)).getD name.node = d.name
  rw [← hfind]
  rfl

theorem sense_of_itemRef {tree : Tree} {name : Spanned String} {n : String}
    (h : (ofTree tree).itemRef name = .valid n) : tree.sense.item name.node = n := by
  obtain ⟨d, hd, rfl⟩ := itemRef_eq_valid.1 h
  have hfind := item?_ofTree tree name.node
  rw [hd] at hfind
  show (tree.itemNames.find? (sameInLower name.node)).getD name.node = d.name
  rw [← hfind]
  rfl

/-! ## Declarations behind the names -/

/-- What is found by its own key stays so when something of a new key is put
last. -/
theorem find?_self_append {α : Type} (key : α → String) (new : α) {l : List α}
    (h : ∀ a ∈ l, (l.find? fun b => key b == key a) = some a)
    (hnew : (l.find? fun b => key b == key new) = none) :
    ∀ a ∈ l ++ [new], ((l ++ [new]).find? fun b => key b == key a) = some a := by
  intro a ha
  rw [List.find?_append]
  rcases List.mem_append.1 ha with ha | ha
  · rw [h a ha, Option.some_or]
  · obtain rfl := List.mem_singleton.1 ha
    rw [hnew, Option.none_or, List.find?_singleton, if_pos (beq_self_eq_true _)]

/-- Whether names are found as themselves and each is declared by one of some
declarations, items after the room that they are said to follow. -/
structure DeclaredIn (decls : List Declaration) (names : Names) : Prop where
  rooms : ∀ d ∈ names.rooms, names.room? d.name = some d ∧
    ∃ decl, Declaration.room decl ∈ decls ∧ decl.name = ⟨d.name, d.span⟩
  items : ∀ d ∈ names.items, names.item? d.name = some d ∧
    ∃ decl, Declaration.item decl ∈ decls ∧ decl.name = ⟨d.name, d.span⟩
  preceding : ∀ d ∈ names.items, ∀ room, d.preceding = some room →
    ∃ d' ∈ names.rooms, d'.name = room

variable {decls : List Declaration} {names : Names}

theorem DeclaredIn.declareRoom (h : names.DeclaredIn decls) {decl : RoomDecl}
    (hdecl : Declaration.room decl ∈ decls) : (names.declareRoom decl.name).DeclaredIn decls := by
  unfold Names.declareRoom
  split
  · exact ⟨h.rooms, h.items, h.preceding⟩
  · next hnone =>
    have hfound := find?_self_append (fun d : DeclaredRoom => lower d.name)
      ⟨decl.name.node, decl.name.span⟩ (fun d hd => (h.rooms d hd).1) hnone
    refine ⟨fun d hd => ⟨hfound d hd, ?_⟩, h.items, fun d hd room hroom => ?_⟩
    · rcases List.mem_append.1 hd with hd | hd
      · exact (h.rooms d hd).2
      · obtain rfl := List.mem_singleton.1 hd
        exact ⟨decl, hdecl, rfl⟩
    · obtain ⟨d', hd', heq⟩ := h.preceding d hd room hroom
      exact ⟨d', List.mem_append_left _ hd', heq⟩

theorem DeclaredIn.declareItem (h : names.DeclaredIn decls) {decl : ItemDecl}
    (hdecl : Declaration.item decl ∈ decls) : (names.declareItem decl.name).DeclaredIn decls := by
  unfold Names.declareItem
  split
  · exact ⟨h.rooms, h.items, h.preceding⟩
  · next hnone =>
    have hfound := find?_self_append (fun d : DeclaredItem => lower d.name)
      ⟨decl.name.node, decl.name.span, names.rooms.getLast?.map (·.name)⟩
      (fun d hd => (h.items d hd).1) hnone
    refine ⟨h.rooms, fun d hd => ⟨hfound d hd, ?_⟩, fun d hd room hroom => ?_⟩
    · rcases List.mem_append.1 hd with hd | hd
      · exact (h.items d hd).2
      · obtain rfl := List.mem_singleton.1 hd
        exact ⟨decl, hdecl, rfl⟩
    · rcases List.mem_append.1 hd with hd | hd
      · exact h.preceding d hd room hroom
      · obtain rfl := List.mem_singleton.1 hd
        obtain ⟨d', hd', heq⟩ := Option.map_eq_some_iff.1 hroom
        exact ⟨d', List.mem_of_getLast? hd', heq⟩

theorem DeclaredIn.foldl_declare {more : List Declaration} (h : names.DeclaredIn decls)
    (hmore : ∀ decl ∈ more, decl ∈ decls) : (more.foldl declare names).DeclaredIn decls := by
  induction more generalizing names with
  | nil => exact h
  | cons decl rest ih =>
    obtain ⟨hdecl, hrest⟩ := List.forall_mem_cons.1 hmore
    refine ih ?_ hrest
    cases decl with
    | room decl => exact h.declareRoom hdecl
    | item decl => exact h.declareItem hdecl
    | _ => exact h

theorem declaredIn_ofTree (tree : Tree) :
    (ofTree tree).DeclaredIn (tree.declarations.map (·.node)) :=
  DeclaredIn.foldl_declare ⟨nofun, nofun, nofun⟩ fun _ h => h

end Names

end Script
end TextAdventure
