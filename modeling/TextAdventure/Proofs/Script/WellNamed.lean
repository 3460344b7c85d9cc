/-
What compiles is well named.

Every reference of a script comes to a declaration, and every declaration that
a reference can come to has its room or its item in the world, under the name
that the reference is replaced by.
-/
import TextAdventure.Proofs.Play.Naming
import TextAdventure.Proofs.Script.Compiled

namespace TextAdventure
namespace Script

variable {names : Names} {lexicon : Vocabulary}

/-! ## Declarations that count -/

namespace RoomDecl

theorem check_eq_some {decl : RoomDecl} {r : Room}
    (h : decl.check names lexicon = .valid (some r)) :
    ∃ description exits, decl.description = some description ∧
      List.Forall₂ (fun clause exit => checkExit names lexicon decl.name.node clause = .valid exit)
        decl.exits exits ∧
      r = ⟨decl.name.node, description, exits⟩ := by
  unfold check at h
  split at h
  · split at h
    · exact absurd h nofun
    · next description hdescription =>
      obtain ⟨exits, hexits, heq⟩ := Checked.map_eq_valid.1 h
      exact ⟨description, exits, hdescription, Checked.all_map_eq_valid.1 hexits,
        (Option.some.inj heq).symm⟩
  · exact absurd (Checked.valid.inj h) nofun

theorem check_ne_none {decl : RoomDecl} (howns : names.ownsRoom decl.name = true) :
    decl.check names lexicon ≠ .valid none := by
  intro h
  rw [check, if_pos howns] at h
  split at h
  · exact absurd h nofun
  · obtain ⟨exits, -, heq⟩ := Checked.map_eq_valid.1 h
    exact absurd heq nofun

end RoomDecl

namespace ItemDecl

theorem check_eq_some {decl : ItemDecl} {i : Item} (h : decl.check names = .valid (some i)) :
    ∃ description start, decl.description = some description ∧
      decl.checkStart names = .valid start ∧
      i = ⟨decl.name.node, description, decl.isPortable, decl.aliases, start⟩ := by
  unfold check at h
  split at h
  · split at h
    · exact absurd h nofun
    · next description hdescription =>
      obtain ⟨start, hstart, heq⟩ := Checked.map_eq_valid.1 h
      exact ⟨description, start, hdescription, hstart, (Option.some.inj heq).symm⟩
  · exact absurd (Checked.valid.inj h) nofun

theorem check_ne_none {decl : ItemDecl} (howns : names.ownsItem decl.name = true) :
    decl.check names ≠ .valid none := by
  intro h
  rw [check, if_pos howns] at h
  split at h
  · exact absurd h nofun
  · obtain ⟨start, -, heq⟩ := Checked.map_eq_valid.1 h
    exact absurd heq nofun

end ItemDecl

/-! ## References -/

namespace MadeOf

variable {tree : Tree} {a : Adventure} {world rules : List (Option Part)}

theorem hasRoom (made : MadeOf tree a world rules) {d : DeclaredRoom}
    (hd : d ∈ (Names.ofTree tree).rooms) : a.world.HasRoom d.name := by
  obtain ⟨hfind, decl, hdecl, hname⟩ := (Names.declaredIn_ofTree tree).rooms d hd
  obtain ⟨declaration, hmem, hnode⟩ := List.mem_map.1 hdecl
  obtain ⟨p, hp, hcheck⟩ := exists_right_of_forall₂ made.checkedWorld hmem
  rw [hnode] at hcheck
  obtain ⟨r, hr, rfl⟩ := Checked.map_eq_valid.1 hcheck
  have howns : (Names.ofTree tree).ownsRoom decl.name = true := by
    rw [Names.ownsRoom, hname, hfind]
    exact beq_self_eq_true d.span
  cases r with
  | none => exact absurd hr (RoomDecl.check_ne_none howns)
  | some r =>
    obtain ⟨description, exits, -, -, rfl⟩ := RoomDecl.check_eq_some hr
    refine ⟨⟨decl.name.node, description, exits⟩, ?_, ?_⟩
    · rw [made.rooms]
      exact List.mem_filterMap.2 ⟨_, hp, rfl⟩
    · rw [hname]

theorem hasItem (made : MadeOf tree a world rules) {d : DeclaredItem}
    (hd : d ∈ (Names.ofTree tree).items) : a.world.HasItem d.name := by
  obtain ⟨hfind, decl, hdecl, hname⟩ := (Names.declaredIn_ofTree tree).items d hd
  obtain ⟨declaration, hmem, hnode⟩ := List.mem_map.1 hdecl
  obtain ⟨p, hp, hcheck⟩ := exists_right_of_forall₂ made.checkedWorld hmem
  rw [hnode] at hcheck
  obtain ⟨i, hi, rfl⟩ := Checked.map_eq_valid.1 hcheck
  have howns : (Names.ofTree tree).ownsItem decl.name = true := by
    rw [Names.ownsItem, hname, hfind]
    exact beq_self_eq_true d.span
  cases i with
  | none => exact absurd hi (ItemDecl.check_ne_none howns)
  | some i =>
    obtain ⟨description, start, -, -, rfl⟩ := ItemDecl.check_eq_some hi
    refine ⟨⟨decl.name.node, description, decl.isPortable, decl.aliases, start⟩, ?_, ?_⟩
    · rw [made.items]
      exact List.mem_filterMap.2 ⟨_, hp, rfl⟩
    · rw [hname]

theorem hasRoom_of_ref (made : MadeOf tree a world rules) {name : Spanned String} {n : String}
    (h : (Names.ofTree tree).roomRef name = .valid n) : a.world.HasRoom n := by
  obtain ⟨d, hd, rfl⟩ := Names.roomRef_eq_valid.1 h
  have hmem := List.mem_of_find?_eq_some hd
  exact made.hasRoom hmem

theorem hasItem_of_ref (made : MadeOf tree a world rules) {name : Spanned String} {n : String}
    (h : (Names.ofTree tree).itemRef name = .valid n) : a.world.HasItem n := by
  obtain ⟨d, hd, rfl⟩ := Names.itemRef_eq_valid.1 h
  have hmem := List.mem_of_find?_eq_some hd
  exact made.hasItem hmem

theorem hasRoom_of_place (made : MadeOf tree a world rules) {place : Place} {room : String}
    (h : place.check (Names.ofTree tree) = .valid (.room room)) : a.world.HasRoom room := by
  cases place with
  | room name =>
    obtain ⟨n, hn, heq⟩ := Checked.map_eq_valid.1 h
    rw [← Location.room.inj heq]
    exact made.hasRoom_of_ref hn
  | nowhere => exact absurd (Checked.valid.inj h) nofun
  | inventory => exact absurd (Checked.valid.inj h) nofun

theorem hasRoom_of_preceding (made : MadeOf tree a world rules) {item room : String}
    (h : (Names.ofTree tree).preceding item = some room) : a.world.HasRoom room := by
  obtain ⟨d, hd, hroom⟩ := Option.bind_eq_some_iff.1 h
  have hmem := List.mem_of_find?_eq_some hd
  obtain ⟨d', hd', rfl⟩ := (Names.declaredIn_ofTree tree).preceding d hmem room hroom
  exact made.hasRoom hd'

/-- An exit leads to the room it names, and without one back to its own. -/
theorem hasRoom_of_exit (made : MadeOf tree a world rules) {r : Room} (hr : r ∈ a.world.rooms)
    {exit : Exit} (hexit : exit ∈ r.exits) : a.world.HasRoom exit.target := by
  obtain ⟨decl, hdecl⟩ := made.exists_room hr
  obtain ⟨description, exits, -, hexits, rfl⟩ := RoomDecl.check_eq_some hdecl
  obtain ⟨clause, -, hclause⟩ := exists_left_of_forall₂ hexits hexit
  obtain ⟨target, htarget, rfl⟩ := Checked.map_eq_valid.1 hclause
  show a.world.HasRoom target
  split at htarget
  · exact ⟨_, hr, Checked.valid.inj htarget⟩
  · exact made.hasRoom_of_ref htarget

theorem hasRoom_of_start (made : MadeOf tree a world rules) {i : Item} (hi : i ∈ a.world.items)
    {room : String} (hstart : i.start = .room room) : a.world.HasRoom room := by
  obtain ⟨decl, hdecl⟩ := made.exists_item hi
  obtain ⟨description, start, -, hcheck, rfl⟩ := ItemDecl.check_eq_some hdecl
  obtain rfl : start = .room room := hstart
  unfold ItemDecl.checkStart at hcheck
  split at hcheck
  · split at hcheck
    · exact absurd (Checked.valid.inj hcheck) nofun
    · exact absurd hcheck nofun
  · exact made.hasRoom_of_place hcheck
  · split at hcheck
    · next r hpreceding =>
      obtain rfl : r = room := Location.room.inj (Checked.valid.inj hcheck)
      exact made.hasRoom_of_preceding hpreceding
    · exact absurd hcheck nofun

/-! ## Effects -/

theorem hasRoom_of_step (made : MadeOf tree a world rules) {step : Step} {e : Effect}
    (h : step.check (Names.ofTree tree) tree.lexicon = .valid e) :
    ∀ room ∈ e.rooms, a.world.HasRoom room := by
  cases step with
  | goto name =>
    obtain ⟨n, hn, rfl⟩ := Checked.map_eq_valid.1 h
    exact List.forall_mem_singleton.2 (made.hasRoom_of_ref hn)
  | put item place =>
    obtain ⟨n, l, hn, hl, rfl⟩ := Checked.map₂_eq_valid.1 h
    cases l with
    | room room => exact List.forall_mem_singleton.2 (made.hasRoom_of_place hl)
    | inventory => exact List.forall_mem_nil _
    | nowhere => exact List.forall_mem_nil _
  | goWord _ | get _ | drop _ | putHere _ | destroy _ =>
    obtain ⟨_, -, rfl⟩ := Checked.map_eq_valid.1 h
    exact List.forall_mem_nil _
  | swap a b =>
    obtain ⟨_, _, -, -, rfl⟩ := Checked.map₂_eq_valid.1 h
    exact List.forall_mem_nil _
  | _ =>
    obtain rfl := Checked.valid.inj h
    exact List.forall_mem_nil _

theorem hasItem_of_step (made : MadeOf tree a world rules) {step : Step} {e : Effect}
    (h : step.check (Names.ofTree tree) tree.lexicon = .valid e) :
    ∀ item ∈ e.items, a.world.HasItem item := by
  cases step with
  | get item | drop item | putHere item | destroy item =>
    obtain ⟨n, hn, rfl⟩ := Checked.map_eq_valid.1 h
    exact List.forall_mem_singleton.2 (made.hasItem_of_ref hn)
  | put item place =>
    obtain ⟨n, l, hn, -, rfl⟩ := Checked.map₂_eq_valid.1 h
    exact List.forall_mem_singleton.2 (made.hasItem_of_ref hn)
  | swap first second =>
    obtain ⟨m, n, hm, hn, rfl⟩ := Checked.map₂_eq_valid.1 h
    refine List.forall_mem_cons.2 ⟨made.hasItem_of_ref hm, ?_⟩
    exact List.forall_mem_singleton.2 (made.hasItem_of_ref hn)
  | goWord _ | goto _ =>
    obtain ⟨_, -, rfl⟩ := Checked.map_eq_valid.1 h
    exact List.forall_mem_nil _
  | _ =>
    obtain rfl := Checked.valid.inj h
    exact List.forall_mem_nil _

theorem wellNamed (made : MadeOf tree a world rules) : a.WellNamed where
  exits _ hr _ hexit := made.hasRoom_of_exit hr hexit
  starts _ hi _ hstart := made.hasRoom_of_start hi hstart
  rooms r hr e he := by
    obtain ⟨body, r₀, -, heffects, hbody⟩ := made.exists_body hr
    obtain ⟨step, hstep⟩ := RuleBody.exists_step_of_mem hbody heffects he
    exact made.hasRoom_of_step hstep
  items r hr e he := by
    obtain ⟨body, r₀, -, heffects, hbody⟩ := made.exists_body hr
    obtain ⟨step, hstep⟩ := RuleBody.exists_step_of_mem hbody heffects he
    exact made.hasItem_of_step hstep

end MadeOf

theorem Tree.wellNamed {tree : Tree} {a : Adventure} (h : tree.compile = .ok a) :
    a.WellNamed := by
  obtain ⟨world, rules, made⟩ := exists_madeOf h
  exact made.wellNamed

/-- In a game of a script that compiles, the player is in a room and every item
in place, by the letter of their names, and a turn fails only of a missing exit
or of a fixed item, or because the game has ended. -/
theorem Tree.names_sound {tree : Tree} {a : Adventure} (h : tree.compile = .ok a) {s : State}
    (hs : a.Reachable s) :
    (∃ r ∈ a.world.rooms, r.name = s.room) ∧
    (∀ item room, (item, Location.room room) ∈ s.places.entries →
      ∃ r ∈ a.world.rooms, r.name = room) ∧
    ∀ command shown draws fault, (a.takeTurn command ⟨s, shown, draws⟩).1 = .error fault →
      (∃ room direction, fault = .noExit room direction) ∨ (∃ item, fault = .notPortable item) ∨
        fault = .gameOver := by
  have hnamed := Tree.wellNamed h
  have hplaced := hnamed.wellPlaced_of_reachable hs
  refine ⟨hplaced.room, hplaced.places, fun command shown draws fault hfault => ?_⟩
  have hscene : (Scene.mk s shown draws).state.WellPlaced a.world := hplaced
  exact hnamed.fault_of_takeTurn hscene hfault

theorem Tree.names_sound_sample : ∃ a, Sample.tree.compile = .ok a ∧
    ∀ command shown draws, ∃ s, s = (a.takeTurn command ⟨a.initialState, shown, draws⟩).2.state ∧
      (∃ r ∈ a.world.rooms, r.name = s.room) ∧
      (∀ item room, (item, Location.room room) ∈ s.places.entries →
        ∃ r ∈ a.world.rooms, r.name = room) ∧
      ∀ command shown draws fault, (a.takeTurn command ⟨s, shown, draws⟩).1 = .error fault →
        (∃ room direction, fault = .noExit room direction) ∨ (∃ item, fault = .notPortable item) ∨
          fault = .gameOver := by
  obtain ⟨a, ha, -⟩ : ∃ a, Sample.tree.compile = .ok a ∧ true = true :=
    Tree.exists_of_compilesTo (by decide +kernel)
  exact ⟨a, ha, fun command shown draws =>
    ⟨_, rfl, Tree.names_sound ha (.turn .start command shown draws)⟩⟩

end Script
end TextAdventure
