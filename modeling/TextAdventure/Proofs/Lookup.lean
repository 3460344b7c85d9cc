/-
What is told of an item that was moved.

Whoever moves an item may name it in any case, since the world finds it by its
key, and so may whoever asks whether it has left the place where it starts.  All
other questions are answered from the table of places, in which the item stands
under its name by the letter.  Under any other spelling of the name the answer is
what it was before the move, and in a game that is nowhere.
-/
import TextAdventure.Condition
import TextAdventure.Proofs.Placement

namespace TextAdventure

open Text

namespace State

variable {world : World} {s s' : State} {i : Item} {name other : String} {place : Location}

/-- Whether everything that is asked by a name is answered as for an item that is
at a place. -/
structure Tells (s : State) (name : String) (place : Location) : Prop where
  placeOf : s.placeOf name = place
  isHere : s.isHere name = place.isRoom s.room
  isCarried : s.isCarried name = (place == .inventory)
  inPlay : s.inPlay name = (place != .nowhere)
  whereHere : ∀ v draws, Condition.holds v s (.here name) draws = (place.isRoom s.room, draws)
  whereCarried : ∀ v draws,
    Condition.holds v s (.carrying name) draws = (place == .inventory, draws)
  wherePresent : ∀ v draws, Condition.holds v s (.present name) draws =
    (place.isRoom s.room || place == .inventory, draws)
  whereInPlay : ∀ v draws, Condition.holds v s (.inPlay name) draws = (place != .nowhere, draws)

/-- One look at the table answers them all. -/
theorem tells_iff : s.Tells name place ↔ s.placeOf name = place := by
  constructor
  · exact Tells.placeOf
  · rintro rfl
    exact ⟨rfl, rfl, rfl, rfl, fun _ _ => rfl, fun _ _ => rfl, fun _ _ => rfl, fun _ _ => rfl⟩

theorem moveItem_eq_ok (h : s.moveItem world name place = .ok s') :
    ∃ i, world.item? name = some i ∧ s' = s.setPlace i.name place := by
  unfold moveItem World.requireItem at h
  cases hitem : world.item? name with
  | none =>
    rw [hitem] at h
    exact absurd h nofun
  | some i =>
    rw [hitem] at h
    dsimp only at h
    split at h
    · exact absurd h nofun
    · exact ⟨i, rfl, (Except.ok.inj h).symm⟩

theorem hasMoved_setPlace (hitem : world.item? name = some i) :
    (s.setPlace i.name place).hasMoved world name = (place != i.start) := by
  rw [hasMoved, hitem]
  dsimp only
  rw [placeOf_setPlace, if_pos rfl]

/-- What is not written by the letter is no name of an item, and so in a game it
is not in the table. -/
theorem Placed.placeOf_of_ne (h : s.Placed world) (hitem : world.item? name = some i)
    (hne : name ≠ i.name) : s.placeOf name = .nowhere := by
  have hunnamed : ¬ world.HasItem name := by
    rintro ⟨j, hj, rfl⟩
    rw [World.item?_of_mem hj] at hitem
    exact hne (congrArg Item.name (Option.some.inj hitem))
  rw [State.placeOf]
  cases hfind : s.places.find? name with
  | none => rfl
  | some place => exact absurd ((h.names name).1 (Table.mem_names_iff.2 ⟨place, hfind⟩)) hunnamed

/-- An item that was moved is found where it was put by whoever names it by the
letter, and as moved by whoever names it in any case.  All else is told as before.
So the name that it was moved by tells where it is only if it is the declared one,
or if it told that already, and in a game any other tells that it is nowhere. -/
theorem tells_of_moveItem (hmoved : s.moveItem world name place = .ok s') :
    ∃ i, world.item? name = some i ∧ s'.Tells i.name place ∧
      (∀ other, lower other = lower name → s'.hasMoved world other = (place != i.start)) ∧
      (∀ other p, other ≠ i.name → (s'.Tells other p ↔ s.Tells other p)) ∧
      (s'.Tells name place ↔ name = i.name ∨ s.Tells name place) ∧
      (s.Placed world → name ≠ i.name → s'.Tells name .nowhere) := by
  obtain ⟨i, hitem, rfl⟩ := moveItem_eq_ok hmoved
  have hmoved : (s.setPlace i.name place).Tells i.name place := by
    rw [tells_iff, placeOf_setPlace, if_pos rfl]
  have hframe : ∀ other p, other ≠ i.name →
      ((s.setPlace i.name place).Tells other p ↔ s.Tells other p) := by
    intro other p hne
    rw [tells_iff, tells_iff, placeOf_setPlace, if_neg hne]
  refine ⟨i, hitem, hmoved, fun other hsame => ?_, hframe, ?_, fun hplaced hne => ?_⟩
  · refine hasMoved_setPlace ?_
    rw [World.item?, hsame]
    exact hitem
  · by_cases hname : name = i.name
    · exact iff_of_true (hname ▸ hmoved) (.inl hname)
    · rw [hframe name place hname]
      exact (or_iff_right hname).symm
  · exact (hframe name .nowhere hne).2 (tells_iff.2 (hplaced.placeOf_of_ne hitem hne))

/-! ## A lamp -/

def Sample.lamp : Item := ⟨"Lamp", "A lamp.", true, [], .room "hall"⟩

/-- A hall with a lamp in it. -/
def Sample.room : World where
  rooms := [⟨"hall", "A hall.", []⟩]
  items := [Sample.lamp]
  rooms_nodup := List.nodup_singleton _
  items_nodup := List.nodup_singleton _
  carried_portable := by decide

theorem tells_of_moveItem_sample :
    ∃ s', (initial Sample.room "hall").moveItem Sample.room "Lamp" .inventory = .ok s' ∧
      s'.Tells "Lamp" .inventory ∧ s'.hasMoved Sample.room "LAMP" = true := by
  have hmoved : (initial Sample.room "hall").moveItem Sample.room "Lamp" .inventory =
      .ok ((initial Sample.room "hall").setPlace "Lamp" .inventory) := by decide +kernel
  obtain ⟨i, hitem, -, hasMoved, -, htells, -⟩ := tells_of_moveItem hmoved
  have hfound : Sample.room.item? "Lamp" = some Sample.lamp :=
    World.item?_of_mem (i := Sample.lamp) List.mem_cons_self
  rw [hfound] at hitem
  obtain rfl : Sample.lamp = i := Option.some.inj hitem
  have hlower : lower "LAMP" = lower "Lamp" := by decide +kernel
  exact ⟨_, hmoved, htells.2 (.inl rfl), (hasMoved "LAMP" hlower).trans rfl⟩

/-- The lamp is taken by a name in capitals, and then that name does not tell that
it is carried. -/
theorem not_tells_of_moveItem :
    ¬ ∀ world s name place s', State.moveItem s world name place = .ok s' →
      s'.Tells name place := by
  intro h
  have hmoved : (initial Sample.room "hall").moveItem Sample.room "LAMP" .inventory =
      .ok ((initial Sample.room "hall").setPlace "Lamp" .inventory) := by decide +kernel
  have htells := h _ _ _ _ _ hmoved
  exact absurd htells.isCarried (by decide +kernel)

end State
end TextAdventure
