/-
What passes the checks can be put together.

The world refuses a room or an item of a name that is taken, an item that the
player cannot carry but starts with, and a start that is no room of it.  The
checks have found all of this out before: without a name that is declared twice
every declaration gives its part, under its own name.
-/
import TextAdventure.Proofs.Script.Distinct
import TextAdventure.Proofs.Script.WellNamed

namespace TextAdventure
namespace Script

open Text

/-! ## Parts -/

variable {names : Names} {lexicon : Vocabulary}

theorem filterMap_eq_of_forall₂ {α β γ : Type} {f : α → Option γ} {g : β → Option γ}
    {as : List α} {bs : List β} (h : List.Forall₂ (fun a b => g b = f a) as bs) :
    bs.filterMap g = as.filterMap f := by
  induction h with
  | nil => rfl
  | cons hab _ ih => rw [List.filterMap_cons, List.filterMap_cons, hab, ih]

/-- A declaration that owns its name gives what it declares. -/
theorem roomName?_of_checkWorld {d : Declaration} {p : Option Part}
    (howns : ∀ decl, d = .room decl → names.ownsRoom decl.name = true)
    (h : d.checkWorld names lexicon = .valid p) :
    (p.bind Part.room?).map (·.name) = d.roomName? := by
  cases d with
  | room decl =>
    obtain ⟨r, hr, rfl⟩ := Checked.map_eq_valid.1 h
    cases r with
    | none => exact absurd hr (RoomDecl.check_ne_none (howns decl rfl))
    | some r =>
      obtain ⟨description, exits, -, -, rfl⟩ := RoomDecl.check_eq_some hr
      rfl
  | item decl =>
    obtain ⟨i, -, rfl⟩ := Checked.map_eq_valid.1 h
    cases i <;> rfl
  | _ =>
    obtain rfl := Checked.valid.inj h
    rfl

theorem itemName?_of_checkWorld {d : Declaration} {p : Option Part}
    (howns : ∀ decl, d = .item decl → names.ownsItem decl.name = true)
    (h : d.checkWorld names lexicon = .valid p) :
    (p.bind Part.item?).map (·.name) = d.itemName? := by
  cases d with
  | room decl =>
    obtain ⟨r, -, rfl⟩ := Checked.map_eq_valid.1 h
    cases r <;> rfl
  | item decl =>
    obtain ⟨i, hi, rfl⟩ := Checked.map_eq_valid.1 h
    cases i with
    | none => exact absurd hi (ItemDecl.check_ne_none (howns decl rfl))
    | some i =>
      obtain ⟨description, start, -, -, rfl⟩ := ItemDecl.check_eq_some hi
      rfl
  | _ =>
    obtain rfl := Checked.valid.inj h
    rfl

/-- What starts with the player can be carried. -/
theorem ItemDecl.portable_of_check {decl : ItemDecl} {i : Item}
    (h : decl.check names = .valid (some i)) (hstart : i.start = .inventory) :
    i.portable = true := by
  obtain ⟨description, start, -, hcheck, rfl⟩ := ItemDecl.check_eq_some h
  obtain rfl : start = .inventory := hstart
  show decl.isPortable = true
  rw [checkStart] at hcheck
  split at hcheck
  · split at hcheck
    · next hcarried => exact hcarried
    · exact absurd hcheck nofun
  · next place _ hplace _ =>
    cases place with
    | room name =>
      obtain ⟨n, -, heq⟩ := Checked.map_eq_valid.1 hcheck
      exact absurd heq nofun
    | nowhere => exact absurd (Checked.valid.inj hcheck) nofun
    | inventory => exact (hplace rfl).elim
  · split at hcheck
    · exact absurd (Checked.valid.inj hcheck) nofun
    · exact absurd hcheck nofun

namespace Tree

variable {tree : Tree} {parts : List Part}

theorem rooms_ne_nil (h : tree.check = .valid parts) : (Names.ofTree tree).rooms ≠ [] := by
  intro hnil
  obtain ⟨-, hparts⟩ := Checked.given_eq_valid.1 h
  obtain ⟨_, _, -, hrooms, -⟩ := Checked.map₂_eq_valid.1 hparts
  rw [hnil] at hrooms
  exact absurd hrooms Checked.error_ne_valid

/-- The rooms among the parts are those that the script declares. -/
theorem roomNames_of_parts (h : tree.check = .valid parts) :
    (parts.filterMap Part.room?).map (·.name) = tree.roomNames := by
  obtain ⟨hdistinct, world, rules, hworld, hrules, rfl⟩ := check_eq_valid h
  have howns : ∀ d ∈ tree.declarations, ∀ decl, d.node = .room decl →
      (Names.ofTree tree).ownsRoom decl.name = true := by
    intro d hd decl hnode
    have hmem := List.mem_map_of_mem (f := (·.node)) hd
    rw [hnode] at hmem
    exact Names.ownsRoom_of_distinct hdistinct hmem
  have hname := ((List.forall₂_and_left _ _).2 ⟨howns, hworld⟩).imp fun _ _ hboth =>
    roomName?_of_checkWorld hboth.1 hboth.2
  rw [filterMap_parts, filterMap_rules_eq_nil (fun _ => rfl) (fun _ => rfl) (fun _ => rfl) hrules,
    List.append_nil, List.map_filterMap]
  exact filterMap_eq_of_forall₂ hname

theorem itemNames_of_parts (h : tree.check = .valid parts) :
    (parts.filterMap Part.item?).map (·.name) = tree.itemNames := by
  obtain ⟨hdistinct, world, rules, hworld, hrules, rfl⟩ := check_eq_valid h
  have howns : ∀ d ∈ tree.declarations, ∀ decl, d.node = .item decl →
      (Names.ofTree tree).ownsItem decl.name = true := by
    intro d hd decl hnode
    have hmem := List.mem_map_of_mem (f := (·.node)) hd
    rw [hnode] at hmem
    exact Names.ownsItem_of_distinct hdistinct hmem
  have hname := ((List.forall₂_and_left _ _).2 ⟨howns, hworld⟩).imp fun _ _ hboth =>
    itemName?_of_checkWorld hboth.1 hboth.2
  rw [filterMap_parts, filterMap_rules_eq_nil (fun _ => rfl) (fun _ => rfl) (fun _ => rfl) hrules,
    List.append_nil, List.map_filterMap]
  exact filterMap_eq_of_forall₂ hname

theorem portable_of_parts (h : tree.check = .valid parts) :
    ∀ i ∈ parts.filterMap Part.item?, i.start = .inventory → i.portable = true := by
  obtain ⟨-, world, rules, hworld, hrules, rfl⟩ := check_eq_valid h
  rw [filterMap_parts, filterMap_rules_eq_nil (fun _ => rfl) (fun _ => rfl) (fun _ => rfl) hrules,
    List.append_nil]
  intro i hi
  obtain ⟨p, hp, hpick⟩ := List.mem_filterMap.1 hi
  obtain ⟨d, -, hd⟩ := exists_left_of_forall₂ hworld hp
  rcases checkWorld_eq_valid hd with ⟨decl, r, -, -, rfl⟩ | ⟨decl, i', -, hi', rfl⟩ | rfl
  · cases r <;> exact absurd hpick nofun
  · cases i' with
    | none => exact absurd hpick nofun
    | some i' =>
      obtain rfl : i' = i := Option.some.inj hpick
      exact ItemDecl.portable_of_check hi'
  · exact absurd hpick nofun

/-- A room that starts are said to be, or else the first one, is declared. -/
theorem start_of_parts (h : tree.check = .valid parts) : ∃ name ∈ tree.roomNames,
    (parts.filterMap Part.start?).getLast?.or (Names.ofTree tree).firstRoom = some name := by
  have hdeclared : ∀ d ∈ (Names.ofTree tree).rooms, d.name ∈ tree.roomNames := by
    intro d hd
    obtain ⟨-, decl, hdecl, hname⟩ := (Names.declaredIn_ofTree tree).rooms d hd
    rw [tree.roomNames_eq]
    refine List.mem_filterMap.2 ⟨_, hdecl, ?_⟩
    rw [Declaration.roomName?, hname]
  have hsome := rooms_ne_nil h
  obtain ⟨-, world, rules, hworld, hrules, rfl⟩ := check_eq_valid h
  rw [filterMap_parts, filterMap_world_eq_nil (fun _ => rfl) (fun _ => rfl) hworld, List.nil_append]
  cases hlast : (rules.filterMap (·.bind Part.start?)).getLast? with
  | some name =>
    refine ⟨name, ?_, rfl⟩
    obtain ⟨p, hp, hpick⟩ := List.mem_filterMap.1 (List.mem_of_getLast? hlast)
    obtain ⟨d, -, hd⟩ := exists_left_of_forall₂ hrules hp
    rcases checkRule_eq_valid hd with ⟨_, r, -, -, rfl⟩ | ⟨_, r, -, -, rfl⟩ |
      ⟨name', n, -, hn, rfl⟩ | ⟨-, -, rfl⟩
    · exact absurd hpick nofun
    · exact absurd hpick nofun
    · obtain rfl : n = name := Option.some.inj hpick
      obtain ⟨declared, hfound, rfl⟩ := Names.roomRef_eq_valid.1 hn
      exact hdeclared declared (List.mem_of_find?_eq_some hfound)
    · exact absurd hpick nofun
  | none =>
    cases hrooms : (Names.ofTree tree).rooms with
    | nil => exact absurd hrooms hsome
    | cons d rest =>
      refine ⟨d.name, hdeclared d (hrooms ▸ List.mem_cons_self), ?_⟩
      rw [Names.firstRoom, hrooms]
      rfl

/-- What has passed the checks can be put together. -/
theorem exists_assemble (h : tree.check = .valid parts) : ∃ a, tree.assemble parts = .ok a := by
  obtain ⟨hdistinct, -⟩ := check_eq_valid h
  obtain ⟨hroomKeys, hitemKeys⟩ := (Names.duplicates_ofTree tree).1 hdistinct
  rw [← roomNames_of_parts h, List.map_map] at hroomKeys
  rw [← itemNames_of_parts h, List.map_map] at hitemKeys
  obtain ⟨w, hw⟩ := World.exists_addRooms (w := World.empty) hroomKeys
  obtain ⟨hrooms, hitems⟩ := World.addRooms_eq_ok hw
  have hitemKeys : (w.items.map Item.key ++
      (parts.filterMap Part.item?).map Item.key).Nodup := by
    rw [hitems]
    exact hitemKeys
  obtain ⟨w', hw'⟩ := World.exists_addItems hitemKeys (portable_of_parts h)
  obtain ⟨name, hname, hstart⟩ := start_of_parts h
  have hhas : w'.HasRoom name := by
    rw [← roomNames_of_parts h] at hname
    obtain ⟨r, hr, rfl⟩ := List.mem_map.1 hname
    refine ⟨r, ?_, rfl⟩
    rw [(World.addItems_eq_ok hw').1, hrooms]
    exact hr
  unfold assemble
  rw [hw]
  dsimp only
  rw [hw']
  dsimp only
  rw [hstart, Option.getD_some]
  unfold Adventure.new
  split
  · next hnone => exact absurd hnone hhas.ne_none
  · exact ⟨_, rfl⟩

end Tree

end Script
end TextAdventure
