/-
Adventures whose names are exact.

Rooms and items are looked up in any case, but the state keeps names as they
were given, and compares them by the letter.  In an adventure where every name
is the name of its room or item as declared, so is every name in a state, and
nothing that is looked up is ever missing.
-/
import TextAdventure.Proofs.Play.Reachable
import TextAdventure.Proofs.Table
import TextAdventure.Proofs.World

namespace TextAdventure

/-! ## Names of an adventure -/

/-- Whether every name in an adventure is, by the letter, the name of the room
or the item that it is to stand for. -/
structure Adventure.WellNamed (a : Adventure) : Prop where
  exits : ∀ r ∈ a.world.rooms, ∀ exit ∈ r.exits, a.world.HasRoom exit.target
  starts : ∀ i ∈ a.world.items, ∀ room, i.start = .room room → a.world.HasRoom room
  rooms : ∀ r ∈ a.rules, ∀ e ∈ r.effects, ∀ room ∈ e.rooms, a.world.HasRoom room
  items : ∀ r ∈ a.rules, ∀ e ∈ r.effects, ∀ item ∈ e.items, a.world.HasItem item

/-- Whether the rooms that a state mentions are rooms of the world, by the
letter. -/
structure State.WellPlaced (world : World) (s : State) : Prop where
  room : world.HasRoom s.room
  places : ∀ item room, (item, Location.room room) ∈ s.places.entries → world.HasRoom room

namespace State

variable {world : World} {s : State}

theorem WellPlaced.placeOf (h : s.WellPlaced world) {item room : String}
    (hplace : s.placeOf item = .room room) : world.HasRoom room := by
  rw [State.placeOf] at hplace
  cases hfind : s.places.find? item with
  | none =>
    rw [hfind] at hplace
    exact absurd hplace nofun
  | some place =>
    rw [hfind] at hplace
    obtain rfl : place = .room room := hplace
    have hmem := Table.mem_entries_of_find? hfind
    exact h.places item room hmem

theorem WellPlaced.setPlace (h : s.WellPlaced world) {item : String} {place : Location}
    (hplace : ∀ room, place = .room room → world.HasRoom room) :
    (s.setPlace item place).WellPlaced world := by
  refine ⟨h.room, fun other room hmem => ?_⟩
  rcases Table.mem_entries_insert hmem with heq | hmem
  · exact hplace room (Prod.mk.inj heq).2.symm
  · exact h.places other room hmem

end State

namespace Adventure

variable {a : Adventure} {s s' : State} {command : Command}

theorem WellNamed.initialState (h : a.WellNamed) : a.initialState.WellPlaced a.world := by
  refine ⟨a.start_mem, fun item room hmem => ?_⟩
  have hlisted := Table.mem_of_mem_entries_ofList hmem
  obtain ⟨i, hi, heq⟩ := List.mem_map.1 hlisted
  exact h.starts i hi room (Prod.mk.inj heq).2

/-- An effect that names rooms by the letter leaves them so in the state. -/
theorem WellNamed.wellPlaced_of_does (h : a.WellNamed) {r : Rule} (hr : r ∈ a.rules) {e : Effect}
    (he : e ∈ r.effects) (hs : s.WellPlaced a.world) (hdoes : Effect.Does a.world command s e s') :
    s'.WellPlaced a.world := by
  cases hdoes with
  | other hroom hplaces hturns =>
    have hstays : a.world.HasRoom s'.room := by
      rw [hroom]
      exact hs.room
    refine ⟨hstays, fun item room hmem => ?_⟩
    rw [hplaces] at hmem
    exact hs.places item room hmem
  | leave hdirection hroom hexit =>
    have hmem := World.mem_of_room? hroom
    have hleads := List.mem_of_find?_eq_some hexit
    exact ⟨h.exits _ hmem _ hleads, hs.places⟩
  | enter hroom =>
    have hmem := World.mem_of_room? hroom
    exact ⟨⟨_, hmem, rfl⟩, hs.places⟩
  | place hplacement hitem hportable =>
    refine hs.setPlace fun room hplace => ?_
    subst hplace
    cases e with
    | drop item | putHere item =>
      obtain ⟨-, hplace⟩ := Prod.mk.inj (Option.some.inj hplacement)
      rw [← Location.room.inj hplace]
      exact hs.room
    | put item place =>
      obtain ⟨-, rfl⟩ := Prod.mk.inj (Option.some.inj hplacement)
      exact h.rooms r hr _ he room List.mem_cons_self
    | _ => exact absurd hplacement (by simp [Effect.placement?])
  | swap hfirst hsecond =>
    -- the second item goes where the first one was
    have hnowhere : ∀ room, Location.nowhere = .room room → a.world.HasRoom room := nofun
    exact (hs.setPlace hnowhere).setPlace fun room => hs.placeOf

/-- What fails at names that are given by the letter is a move without an exit
or the carrying of what is fixed. -/
theorem WellNamed.cases_of_fails (h : a.WellNamed) {r : Rule} (hr : r ∈ a.rules) {e : Effect}
    (he : e ∈ r.effects) (hs : s.WellPlaced a.world) {fault : Fault}
    (hfails : Effect.Fails a.world command s e fault) :
    (∃ direction room, e.direction? command = some direction ∧ a.world.room? s.room = some room ∧
      room.exitTowards direction = none ∧ fault = .noExit room.name (Text.lower direction.name)) ∨
    ∃ name ∈ e.carries, ∃ item, a.world.item? name = some item ∧ item.portable = false ∧
      fault = .notPortable item.name := by
  cases hfails with
  | lost hroom => exact absurd hroom hs.room.ne_none
  | astray hroom =>
    have hhas := h.rooms r hr _ he _ List.mem_cons_self
    exact absurd hroom hhas.ne_none
  | noExit hdirection hroom hexit => exact .inl ⟨_, _, hdirection, hroom, hexit, rfl⟩
  | missing hname hitem =>
    have hhas := h.items r hr _ he _ hname
    exact absurd hitem hhas.ne_none
  | fixed hname hitem hportable => exact .inr ⟨_, hname, _, hitem, hportable, rfl⟩

theorem WellNamed.keeps (h : a.WellNamed) : a.Keeps (State.WellPlaced a.world) where
  begins _ hs := ⟨hs.room, hs.places⟩
  does _ hr _ he _ _ _ := h.wellPlaced_of_does hr he

theorem WellNamed.wellPlaced_of_reachable (h : a.WellNamed) (hs : a.Reachable s) :
    s.WellPlaced a.world :=
  h.keeps.reachable h.initialState hs

/-- No turn of a game that is well named fails of an unknown name. -/
theorem WellNamed.fault_of_takeTurn (h : a.WellNamed) {scene : Scene}
    (hs : scene.state.WellPlaced a.world) {fault : Fault}
    (hfault : (a.takeTurn command scene).1 = .error fault) :
    (∃ room direction, fault = .noExit room direction) ∨ (∃ item, fault = .notPortable item) ∨
      fault = .gameOver := by
  rcases h.keeps.fails hs hfault with rfl | ⟨r, hr, e, he, command, s, hs, hfails⟩
  · exact .inr (.inr rfl)
  · rcases h.cases_of_fails hr he hs hfails with
      ⟨direction, room, -, -, -, rfl⟩ | ⟨name, -, item, -, -, rfl⟩
    · exact .inl ⟨_, _, rfl⟩
    · exact .inr (.inl ⟨_, rfl⟩)

end Adventure
end TextAdventure
