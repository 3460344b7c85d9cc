/-
Every item has one place.

Items are looked up in any case and their places are kept by the letter, so an
entry of the table of places could get lost, or be made for a name that no item
has.  That never happens: whatever is done to a state writes the entries of
items of the world alone, under their names as declared, and those are there
from the start.
-/
import Mathlib.Data.List.Perm.Basic
import TextAdventure.Proofs.Effects
import TextAdventure.Proofs.Table
import TextAdventure.Proofs.World

namespace TextAdventure

/-! ## Changes of a state -/

/-- All that can be done to a state: by its own means, or by an effect on a
command. -/
inductive Change where
  | enter (room : String)
  | moveItem (item : String) (place : Location)
  | swapItems (a b : String)
  | setFlag (name : String) (value : Bool)
  | setCounter (name : String) (value : Int64)
  | increment (name : String)
  | decrement (name : String)
  | setString (name value : String)
  | quit
  | beginTurn
  | effect (command : Command) (e : Effect)

namespace Change

def apply (world : World) (s : State) : Change → Except Fault State
  | .enter room => .ok (s.enter room)
  | .moveItem item place => s.moveItem world item place
  | .swapItems a b => s.swapItems world a b
  | .setFlag name value => .ok (s.setFlag name value)
  | .setCounter name value => .ok (s.setCounter name value)
  | .increment name => .ok (s.increment name)
  | .decrement name => .ok (s.decrement name)
  | .setString name value => .ok (s.setString name value)
  | .quit => .ok s.quit
  | .beginTurn => .ok s.beginTurn
  | .effect command e => (e.apply world command s).map Prod.fst

end Change

/-- The state after changes.  One that fails leaves it as it is. -/
def State.after (world : World) (s : State) : List Change → State
  | [] => s
  | c :: rest =>
    match c.apply world s with
    | .ok s' => s'.after world rest
    | .error _ => s.after world rest

/-! ## Places -/

namespace State

variable {world : World} {s s' : State} {i : Item} {place : Location}

/-- Whether the items of the world have places, and nothing else has, and none
is carried that is fixed. -/
structure Placed (world : World) (s : State) : Prop where
  names : ∀ name, name ∈ s.places.names ↔ world.HasItem name
  portable : ∀ i ∈ world.items, s.placeOf i.name = .inventory → i.portable = true

theorem Placed.congr (h : s.Placed world) (hplaces : s'.places = s.places) : s'.Placed world := by
  refine ⟨fun name => ?_, fun i hi hcarried => ?_⟩
  · rw [hplaces]
    exact h.names name
  · rw [placeOf, hplaces] at hcarried
    exact h.portable i hi hcarried

theorem placeOf_setPlace (s : State) (item : String) (place : Location) (other : String) :
    (s.setPlace item place).placeOf other = if other = item then place else s.placeOf other := by
  rw [placeOf, setPlace, Table.find?_insert]
  split <;> rfl

theorem Placed.setPlace (h : s.Placed world) (hi : i ∈ world.items)
    (hportable : place = .inventory → i.portable = true) :
    (s.setPlace i.name place).Placed world := by
  refine ⟨fun name => ?_, fun j hj hcarried => ?_⟩
  · rw [State.setPlace, Table.mem_names_insert, h.names]
    refine or_iff_right_of_imp ?_
    rintro rfl
    exact ⟨i, hi, rfl⟩
  · rw [placeOf_setPlace] at hcarried
    split at hcarried
    · next hsame =>
      rw [World.eq_of_mem_of_name hj hi hsame]
      exact hportable hcarried
    · exact h.portable j hj hcarried

theorem placed_initial (world : World) (start : String) : (initial world start).Placed world := by
  have hentries : ∀ name place, (initial world start).places.find? name = some place →
      ∃ i ∈ world.items, i.name = name ∧ i.start = place := by
    intro name place hfind
    have hmem := Table.mem_of_mem_entries_ofList (Table.mem_entries_of_find? hfind)
    obtain ⟨i, hi, heq⟩ := List.mem_map.1 hmem
    exact ⟨i, hi, Prod.mk.inj heq⟩
  refine ⟨fun name => ?_, fun i hi hcarried => ?_⟩
  · rw [initial, Table.mem_names_ofList, List.map_map, List.mem_map]
    rfl
  · rw [placeOf] at hcarried
    cases hfind : (initial world start).places.find? i.name with
    | none =>
      rw [hfind] at hcarried
      exact absurd hcarried nofun
    | some place =>
      rw [hfind] at hcarried
      obtain rfl : place = .inventory := hcarried
      obtain ⟨j, hj, hname, hstart⟩ := hentries _ _ hfind
      rw [← World.eq_of_mem_of_name hj hi hname]
      exact world.carried_portable j hj hstart

/-- An item may be swapped with itself; its place is then written last. -/
theorem Placed.swapItems (h : s.Placed world) {a b : String}
    (hswapped : s.swapItems world a b = .ok s') : s'.Placed world := by
  unfold State.swapItems World.requireItem at hswapped
  cases hfirst : world.item? a with
  | none => rw [hfirst] at hswapped; exact absurd hswapped nofun
  | some first =>
    cases hsecond : world.item? b with
    | none => rw [hfirst, hsecond] at hswapped; exact absurd hswapped nofun
    | some second =>
      rw [hfirst, hsecond] at hswapped
      dsimp only at hswapped
      split at hswapped
      · exact absurd hswapped nofun
      · next hfree =>
        rw [← Except.ok.inj hswapped]
        have hgone : (s.setPlace first.name .nowhere).Placed world :=
          h.setPlace (World.mem_of_item? hfirst) nofun
        exact hgone.setPlace (World.mem_of_item? hsecond) fun hplace =>
          Bool.of_not_eq_false fun hfixed => hfree ⟨hplace, hfixed⟩

theorem Placed.does (h : s.Placed world) {command : Command} {e : Effect}
    (hdoes : Effect.Does world command s e s') (hswap : ∀ a b, e ≠ .swap a b) :
    s'.Placed world := by
  cases hdoes with
  | other hroom hplaces hturns => exact h.congr hplaces
  | leave hdirection hroom hexit => exact h.congr rfl
  | enter hroom => exact h.congr rfl
  | place hplacement hitem hportable => exact h.setPlace (World.mem_of_item? hitem) hportable
  | swap hfirst hsecond => exact absurd rfl (hswap _ _)

theorem Placed.moveItem (h : s.Placed world) {name : String}
    (hmoved : s.moveItem world name place = .ok s') : s'.Placed world := by
  have happly : (Effect.put name place).apply world .empty s = .ok (s', []) := by
    rw [Effect.apply, hmoved]
    rfl
  exact h.does (Effect.does_of_apply happly) fun a b hswap => by cases hswap

theorem Placed.effect (h : s.Placed world) {command : Command} {e : Effect} {shown : List Shown}
    (happly : e.apply world command s = .ok (s', shown)) : s'.Placed world := by
  by_cases hswap : ∃ a b, e = .swap a b
  · obtain ⟨a, b, rfl⟩ := hswap
    rw [Effect.apply] at happly
    cases hswapped : s.swapItems world a b with
    | error fault => rw [hswapped] at happly; cases happly
    | ok s'' =>
      rw [hswapped] at happly
      rw [← (Prod.mk.inj (Except.ok.inj happly)).1]
      exact h.swapItems hswapped
  · exact h.does (Effect.does_of_apply happly) fun a b heq => hswap ⟨a, b, heq⟩

theorem Placed.change (h : s.Placed world) {c : Change} (hc : c.apply world s = .ok s') :
    s'.Placed world := by
  cases c with
  | moveItem item place => exact h.moveItem hc
  | swapItems a b => exact h.swapItems hc
  | effect command e =>
    cases happly : e.apply world command s with
    | error fault =>
      rw [Change.apply, happly] at hc
      exact absurd hc nofun
    | ok done =>
      rw [Change.apply, happly] at hc
      rw [← Except.ok.inj hc]
      exact h.effect happly
  | _ =>
    rw [← Except.ok.inj hc]
    exact h.congr rfl

theorem Placed.after (h : s.Placed world) (changes : List Change) :
    (s.after world changes).Placed world := by
  induction changes generalizing s with
  | nil => exact h
  | cons c rest ih =>
    rw [State.after]
    cases hc : c.apply world s with
    | ok s' => exact ih (h.change hc)
    | error fault => exact ih h

theorem Placed.find? (h : s.Placed world) (hi : i ∈ world.items) :
    s.places.find? i.name = some (s.placeOf i.name) := by
  obtain ⟨place, hplace⟩ := Table.mem_names_iff.1 ((h.names i.name).2 ⟨i, hi, rfl⟩)
  rw [placeOf, hplace]
  rfl

theorem Placed.mem_itemsAt (h : s.Placed world) :
    i ∈ s.itemsAt world place ↔ i ∈ world.items ∧ s.places.find? i.name = some place := by
  rw [itemsAt, List.mem_filter, beq_iff_eq]
  refine and_congr_right fun hi => ?_
  rw [h.find? hi, Option.some.injEq]

/-- No item is lost, is there twice, or is carried although it is fixed.  After
any changes of a new state the table of places has one entry for each item of the
world, under its name by the letter, and no other.  What lies at a place is what
has an entry that says so, in the order of the world, and every item lies at one
place. -/
theorem items_conserved (world : World) (start : String) (changes : List Change) :
    let s := (initial world start).after world changes
    s.places.names.Perm (world.items.map Item.name) ∧ s.places.names.Nodup ∧
    (∀ i ∈ world.items, s.places.find? i.name = some .inventory → i.portable = true) ∧
    (∀ place, (s.itemsAt world place).Sublist world.items ∧ (s.itemsAt world place).Nodup ∧
      ∀ i, i ∈ s.itemsAt world place ↔ i ∈ world.items ∧ s.places.find? i.name = some place) ∧
    ∀ i ∈ world.items, ∃! place, i ∈ s.itemsAt world place := by
  intro s
  have hplaced : s.Placed world := (placed_initial world start).after changes
  have hlisted : ∀ place, (s.itemsAt world place).Sublist world.items :=
    fun place => List.filter_sublist
  refine ⟨?_, s.places.nodup_names, fun i hi hcarried => ?_, fun place => ?_, fun i hi => ?_⟩
  · refine (List.perm_ext_iff_of_nodup s.places.nodup_names world.nodup_itemNames).2 fun name => ?_
    rw [hplaced.names, List.mem_map]
    rfl
  · rw [hplaced.find? hi] at hcarried
    exact hplaced.portable i hi (Option.some.inj hcarried)
  · exact ⟨hlisted place, (hlisted place).nodup (List.Nodup.of_map _ world.items_nodup),
      fun i => hplaced.mem_itemsAt⟩
  · refine ⟨s.placeOf i.name, hplaced.mem_itemsAt.2 ⟨hi, hplaced.find? hi⟩, fun place hplace => ?_⟩
    have hentry := (hplaced.mem_itemsAt.1 hplace).2
    rw [hplaced.find? hi] at hentry
    exact (Option.some.inj hentry).symm

end State
end TextAdventure
