/-
Worlds as they are built, and indexes kept beside them.

A world is built by adding rooms and items one at a time, and a call that fails
leaves it as it was.  What is asked for by a name is looked for from the first room
or item on.  Here the same calls are also carried out in place on a catalogue, in
which an index leads from a key to the position of its entry, and is written before
the entry is.  The indexes stay in step with their lists over any calls, so that the
catalogue answers as the world does, and both tell of the calls that succeeded.
-/
import Mathlib.Data.List.Induction
import TextAdventure.Proofs.InPlace
import TextAdventure.Proofs.World

namespace TextAdventure

open Text InPlace

/-! ## Entries and their index -/

/-- Entries in the order in which they came, and the positions of their keys. -/
structure Directory (α : Type) where
  entries : List α
  index : Table Nat

namespace Directory

variable {α : Type} {key : α → String} {d : Directory α} {a : α} {k : String} {i : Nat}

def empty : Directory α := ⟨[], .empty⟩

/-- Note where the next entry is going to be. -/
def note (d : Directory α) (k : String) : Directory α :=
  { d with index := d.index.insert k d.entries.length }

def push (d : Directory α) (a : α) : Directory α :=
  { d with entries := d.entries ++ [a] }

/-- The entry that the index leads to. -/
def find? (d : Directory α) (k : String) : Option α :=
  (d.index.find? k).bind (d.entries[·]?)

/-- Whether the index leads from each key to the first entry that has it, and from
no other text to anywhere. -/
def InStep (key : α → String) (d : Directory α) : Prop :=
  ∀ k, d.index.find? k = d.entries.findIdx? (key · == k)

theorem inStep_empty : (empty : Directory α).InStep key := fun _ => rfl

theorem InStep.lt_length (h : d.InStep key) (hi : d.index.find? k = some i) :
    i < d.entries.length := by
  rw [h k, List.findIdx?_eq_some_iff_findIdx_eq] at hi
  exact hi.1

theorem InStep.find?_eq (h : d.InStep key) (k : String) :
    d.find? k = d.entries.find? (key · == k) := by
  rw [find?, h k, List.find?_eq_bind_findIdx?_getElem?]

theorem InStep.contains_iff (h : d.InStep key) :
    d.index.contains k = true ↔ k ∈ d.entries.map key := by
  rw [Table.contains, h k, List.findIdx?_isSome, List.any_eq_true, List.mem_map]
  simp only [beq_iff_eq]

/-- A new entry is put where it was noted to be, and the others stay where they
are. -/
theorem InStep.add (h : d.InStep key) (hnew : key a ∉ d.entries.map key) :
    ((d.note (key a)).push a).InStep key := by
  intro k
  show (d.index.insert (key a) d.entries.length).find? k =
    (d.entries ++ [a]).findIdx? (key · == k)
  rw [Table.find?_insert, List.findIdx?_append, List.findIdx?_singleton, ← h k]
  split
  · next hk =>
    have hnone : d.index.find? k = none :=
      Option.not_isSome_iff_eq_none.1 (mt h.contains_iff.1 (hk ▸ hnew))
    rw [hnone, hk, beq_self_eq_true, if_pos rfl, Option.map_some, Nat.zero_add, Option.none_or]
  · next hk =>
    rw [if_neg (mt eq_of_beq (Ne.symm hk)), Option.map_none, Option.or_none]

end Directory

/-! ## Calls -/

/-- A call that adds to a world. -/
inductive Addition where
  | room (r : Room)
  | item (i : Item)

namespace Addition

def name : Addition → String
  | .room r => r.name
  | .item i => i.name

def room? : Addition → Option Room
  | .room r => some r
  | .item _ => none

def item? : Addition → Option Item
  | .room _ => none
  | .item i => some i

theorem room?_eq_some_iff {a : Addition} {r : Room} : a.room? = some r ↔ a = .room r := by
  cases a <;> simp [room?]

theorem item?_eq_some_iff {a : Addition} {i : Item} : a.item? = some i ↔ a = .item i := by
  cases a <;> simp [item?]

/-- Whether two calls add things of one kind whose names are alike in lower case. -/
def Clashes : Addition → Addition → Prop
  | .room r, .room s => lower r.name = lower s.name
  | .item i, .item j => lower i.name = lower j.name
  | _, _ => False

/-- Whether an item that cannot be carried is to start with the player. -/
def Misplaced : Addition → Prop
  | .room _ => False
  | .item i => i.start = .inventory ∧ i.portable = false

/-- What is wrong with a call if its name is taken. -/
def duplicate : Addition → Fault
  | .room r => .duplicateRoom r.name
  | .item i => .duplicateItem i.name

def apply (w : World) : Addition → Except Fault World
  | .room r => w.addRoom r
  | .item i => w.addItem i

theorem apply_eq_ok {a : Addition} {w w' : World} (h : a.apply w = .ok w') :
    w'.rooms = w.rooms ++ [a].filterMap room? ∧ w'.items = w.items ++ [a].filterMap item? := by
  cases a with
  | room r =>
    obtain ⟨hrooms, hitems⟩ := World.addRoom_eq_ok h
    exact ⟨hrooms, hitems.trans (List.append_nil _).symm⟩
  | item i =>
    obtain ⟨hrooms, hitems⟩ := World.addItem_eq_ok h
    exact ⟨hrooms.trans (List.append_nil _).symm, hitems⟩

end Addition

/-- How far calls have come: the world that they have made, and those of them that
succeeded. -/
structure Building where
  world : World
  done : List Addition

namespace Building

/-- Make a call.  One that fails leaves everything as it was. -/
def step (b : Building) (a : Addition) : Building :=
  match a.apply b.world with
  | .ok world => ⟨world, b.done ++ [a]⟩
  | .error _ => b

def ofCalls (calls : List Addition) : Building := calls.foldl step ⟨.empty, []⟩

theorem ofCalls_concat (calls : List Addition) (a : Addition) :
    ofCalls (calls ++ [a]) = (ofCalls calls).step a := by
  rw [ofCalls, List.foldl_append]
  rfl

/-- Whether something of that kind and name has been added. -/
def Taken (b : Building) (a : Addition) : Prop := ∃ earlier ∈ b.done, earlier.Clashes a

/-- Whether a world lists what the successful calls have added, in their order. -/
structure Tells (b : Building) : Prop where
  rooms : b.world.rooms = b.done.filterMap Addition.room?
  items : b.world.items = b.done.filterMap Addition.item?

variable {b : Building} {a : Addition} {r : Room} {i : Item} {fault : Fault}

theorem step_of_ok {w : World} (h : a.apply b.world = .ok w) : b.step a = ⟨w, b.done ++ [a]⟩ := by
  rw [step, h]

theorem step_of_error (h : a.apply b.world = .error fault) : b.step a = b := by
  rw [step, h]

theorem Tells.step (h : b.Tells) (a : Addition) : (b.step a).Tells := by
  cases happly : a.apply b.world with
  | error fault =>
    rw [step_of_error happly]
    exact h
  | ok w =>
    obtain ⟨hrooms, hitems⟩ := Addition.apply_eq_ok happly
    rw [step_of_ok happly]
    constructor
    · rw [hrooms, h.rooms, List.filterMap_append]
    · rw [hitems, h.items, List.filterMap_append]

theorem tells_ofCalls (calls : List Addition) : (ofCalls calls).Tells := by
  induction calls using List.reverseRecOn with
  | nil => exact ⟨rfl, rfl⟩
  | append_singleton calls a ih =>
    rw [ofCalls_concat]
    exact ih.step a

theorem Tells.mem_rooms_iff (h : b.Tells) : r ∈ b.world.rooms ↔ .room r ∈ b.done := by
  rw [h.rooms, List.mem_filterMap]
  simp only [Addition.room?_eq_some_iff, exists_eq_right]

theorem Tells.mem_items_iff (h : b.Tells) : i ∈ b.world.items ↔ .item i ∈ b.done := by
  rw [h.items, List.mem_filterMap]
  simp only [Addition.item?_eq_some_iff, exists_eq_right]

theorem Tells.taken_room_iff (h : b.Tells) :
    b.Taken (.room r) ↔ r.key ∈ b.world.rooms.map Room.key := by
  rw [List.mem_map]
  constructor
  · rintro ⟨s | i, hdone, hclash⟩
    · exact ⟨s, h.mem_rooms_iff.2 hdone, hclash⟩
    · exact hclash.elim
  · rintro ⟨s, hs, hkey⟩
    exact ⟨.room s, h.mem_rooms_iff.1 hs, hkey⟩

theorem Tells.taken_item_iff (h : b.Tells) :
    b.Taken (.item i) ↔ i.key ∈ b.world.items.map Item.key := by
  rw [List.mem_map]
  constructor
  · rintro ⟨s | j, hdone, hclash⟩
    · exact hclash.elim
    · exact ⟨j, h.mem_items_iff.2 hdone, hclash⟩
  · rintro ⟨j, hj, hkey⟩
    exact ⟨.item j, h.mem_items_iff.1 hj, hkey⟩

/-- A call fails if its name is taken, and only else for what it would misplace. -/
theorem Tells.apply_eq_error_iff (h : b.Tells) : a.apply b.world = .error fault ↔
    b.Taken a ∧ fault = a.duplicate ∨
    ¬ b.Taken a ∧ a.Misplaced ∧ fault = .notPortable a.name := by
  cases a with
  | room r =>
    rw [h.taken_room_iff]
    exact World.addRoom_eq_error_iff.trans (or_iff_left fun hother => hother.2.1).symm
  | item i =>
    rw [h.taken_item_iff]
    exact World.addItem_eq_error_iff

theorem Tells.apply_ok_iff (h : b.Tells) :
    (∃ w, a.apply b.world = .ok w) ↔ ¬ b.Taken a ∧ ¬ a.Misplaced := by
  constructor
  · rintro ⟨w, hw⟩
    have hnofault : ∀ fault, a.apply b.world ≠ .error fault := by
      intro fault hfault
      rw [hw] at hfault
      exact absurd hfault nofun
    have hfree : ¬ b.Taken a := fun htaken =>
      hnofault _ (h.apply_eq_error_iff.2 (.inl ⟨htaken, rfl⟩))
    exact ⟨hfree, fun hmisplaced =>
      hnofault _ (h.apply_eq_error_iff.2 (.inr ⟨hfree, hmisplaced, rfl⟩))⟩
  · rintro ⟨hfree, hplaced⟩
    cases happly : a.apply b.world with
    | ok w => exact ⟨w, rfl⟩
    | error fault =>
      rcases h.apply_eq_error_iff.1 happly with ⟨htaken, -⟩ | ⟨-, hmisplaced, -⟩
      · exact absurd htaken hfree
      · exact absurd hmisplaced hplaced

end Building

/-! ## Calls on a catalogue -/

/-- A world with an index for its rooms and another for its items. -/
structure Catalogue where
  rooms : Directory Room
  items : Directory Item

namespace Catalogue

def empty : Catalogue := ⟨.empty, .empty⟩

def noteRoom (key : String) (c : Catalogue) : Catalogue := { c with rooms := c.rooms.note key }

def pushRoom (r : Room) (c : Catalogue) : Catalogue := { c with rooms := c.rooms.push r }

def noteItem (key : String) (c : Catalogue) : Catalogue := { c with items := c.items.note key }

def pushItem (i : Item) (c : Catalogue) : Catalogue := { c with items := c.items.push i }

/-- A call, carried out in place.  The index is written before the entry is. -/
def act : Addition → InPlace Catalogue Unit
  | .room r => do
    if (← get).rooms.index.contains r.key then
      throw (.duplicateRoom r.name)
    else
      modify (noteRoom r.key)
      modify (pushRoom r)
  | .item i => do
    if (← get).items.index.contains i.key then
      throw (.duplicateItem i.name)
    else if i.start = .inventory ∧ i.portable = false then
      throw (.notPortable i.name)
    else
      modify (noteItem i.key)
      modify (pushItem i)

/-- What there is after a call, whether it succeeds or fails. -/
def step (c : Catalogue) (a : Addition) : Catalogue :=
  match act a c with
  | .ok () after => after
  | .error _ after => after

def ofCalls (calls : List Addition) : Catalogue := calls.foldl step empty

theorem ofCalls_concat (calls : List Addition) (a : Addition) :
    ofCalls (calls ++ [a]) = (ofCalls calls).step a := by
  rw [ofCalls, List.foldl_append]
  rfl

/-- Whether a catalogue lists what a world lists, with its indexes in step. -/
structure Shows (c : Catalogue) (w : World) : Prop where
  rooms : c.rooms.entries = w.rooms
  items : c.items.entries = w.items
  roomsInStep : c.rooms.InStep Room.key
  itemsInStep : c.items.InStep Item.key

/-- The catalogue with what a call adds. -/
def plus (c : Catalogue) : Addition → Catalogue
  | .room r => pushRoom r (noteRoom r.key c)
  | .item i => pushItem i (noteItem i.key c)

variable {c : Catalogue} {w : World} {b : Building}

/-- A call gives the answer that it gives on the world. -/
theorem Shows.act_eq (h : c.Shows w) (a : Addition) :
    act a c = settle c ((a.apply w).map fun _ => c.plus a) := by
  cases a with
  | room r =>
    have hknown := h.roomsInStep.contains_iff (k := r.key)
    rw [h.rooms] at hknown
    show (if _ then _ else _ : InPlace Catalogue Unit) c = settle c ((w.addRoom r).map _)
    rw [World.addRoom]
    by_cases htaken : r.key ∈ w.rooms.map Room.key
    · rw [if_pos (hknown.2 htaken), dif_pos htaken]
      rfl
    · rw [if_neg (mt hknown.1 htaken), dif_neg htaken]
      rfl
  | item i =>
    have hknown := h.itemsInStep.contains_iff (k := i.key)
    rw [h.items] at hknown
    show (if _ then _ else _ : InPlace Catalogue Unit) c = settle c ((w.addItem i).map _)
    rw [World.addItem]
    by_cases htaken : i.key ∈ w.items.map Item.key
    · rw [if_pos (hknown.2 htaken), dif_pos htaken]
      rfl
    · rw [if_neg (mt hknown.1 htaken), dif_neg htaken]
      by_cases hfixed : i.start = .inventory ∧ i.portable = false
      · rw [if_pos hfixed, dif_pos hfixed]
        rfl
      · rw [if_neg hfixed, dif_neg hfixed]
        rfl

/-- Nothing is written before the last check of a call. -/
theorem atomic_act (a : Addition) : Atomic (act a) := by
  intro before fault after h
  cases a with
  | room r =>
    change (if _ then _ else _ : InPlace Catalogue Unit) before = .error fault after at h
    split at h
    · cases h
      rfl
    · exact absurd h nofun
  | item i =>
    change (if _ then _ else _ : InPlace Catalogue Unit) before = .error fault after at h
    split at h
    · cases h
      rfl
    · split at h
      · cases h
        rfl
      · exact absurd h nofun

theorem Shows.plus (h : c.Shows w) {a : Addition} {w' : World} (happly : a.apply w = .ok w') :
    (c.plus a).Shows w' := by
  cases a with
  | room r =>
    obtain ⟨hrooms, hitems⟩ := World.addRoom_eq_ok happly
    have hnew := World.key_not_mem_of_addRoom happly
    rw [← h.rooms] at hrooms hnew
    exact ⟨hrooms.symm, h.items.trans hitems.symm, h.roomsInStep.add hnew, h.itemsInStep⟩
  | item i =>
    obtain ⟨hrooms, hitems⟩ := World.addItem_eq_ok happly
    have hnew := World.key_not_mem_of_addItem happly
    rw [← h.items] at hitems hnew
    exact ⟨h.rooms.trans hrooms.symm, hitems.symm, h.roomsInStep, h.itemsInStep.add hnew⟩

/-- What is shown after a call is what was made by it. -/
theorem Shows.step (h : c.Shows b.world) (a : Addition) : (c.step a).Shows (b.step a).world := by
  rw [Catalogue.step, h.act_eq a]
  cases happly : a.apply b.world with
  | error fault =>
    rw [Building.step_of_error happly]
    exact h
  | ok w' =>
    rw [Building.step_of_ok happly]
    exact h.plus happly

theorem shows_ofCalls (calls : List Addition) :
    (ofCalls calls).Shows (Building.ofCalls calls).world := by
  induction calls using List.reverseRecOn with
  | nil => exact ⟨rfl, rfl, Directory.inStep_empty, Directory.inStep_empty⟩
  | append_singleton calls a ih =>
    rw [ofCalls_concat, Building.ofCalls_concat]
    exact ih.step a

theorem Shows.find?_rooms (h : c.Shows w) (name : String) :
    c.rooms.find? (lower name) = w.room? name := by
  rw [h.roomsInStep.find?_eq, h.rooms]
  rfl

theorem Shows.find?_items (h : c.Shows w) (name : String) :
    c.items.find? (lower name) = w.item? name := by
  rw [h.itemsInStep.find?_eq, h.items]
  rfl

end Catalogue

/-! ## Worlds and their calls -/

namespace World

open Building

/-- Whether the world and the catalogue that calls have made tell of those that
succeeded: which call succeeds next and why another fails, what is listed, and what
is found by a name. -/
structure Faithful (calls : List Addition) (b : Building) (c : Catalogue) : Prop where
  succeeds : ∀ a : Addition, (∃ w, a.apply b.world = .ok w) ↔
    (∀ earlier ∈ b.done, ¬ earlier.Clashes a) ∧ ¬ a.Misplaced
  fails : ∀ (a : Addition) fault, a.apply b.world = .error fault ↔
    (∃ earlier ∈ b.done, earlier.Clashes a) ∧ fault = a.duplicate ∨
    (∀ earlier ∈ b.done, ¬ earlier.Clashes a) ∧ a.Misplaced ∧ fault = .notPortable a.name
  accepted : ∀ (a : Addition) w, a.apply b.world = .ok w →
    Building.ofCalls (calls ++ [a]) = ⟨w, b.done ++ [a]⟩
  refused : ∀ (a : Addition) fault, a.apply b.world = .error fault →
    Building.ofCalls (calls ++ [a]) = b
  rooms : b.world.rooms = b.done.filterMap Addition.room?
  items : b.world.items = b.done.filterMap Addition.item?
  room_iff : ∀ name r, b.world.room? name = some r ↔ .room r ∈ b.done ∧ lower r.name = lower name
  item_iff : ∀ name i, b.world.item? name = some i ↔ .item i ∈ b.done ∧ lower i.name = lower name
  answers : ∀ a : Addition, Catalogue.act a c =
    settle c ((a.apply b.world).map fun _ => Catalogue.ofCalls (calls ++ [a]))
  atomic : ∀ a : Addition, Atomic (Catalogue.act a)
  listed : c.rooms.entries = b.world.rooms ∧ c.items.entries = b.world.items
  indexed : ∀ key i, (c.rooms.index.find? key = some i → i < c.rooms.entries.length) ∧
    (c.items.index.find? key = some i → i < c.items.entries.length)
  found : ∀ name, c.rooms.find? (lower name) = b.world.room? name ∧
    c.items.find? (lower name) = b.world.item? name

/-- A world is told by the calls that made it, whichever these are, and so is the
catalogue that they make in place: no index leads astray. -/
theorem faithful_ofCalls (calls : List Addition) :
    Faithful calls (Building.ofCalls calls) (Catalogue.ofCalls calls) := by
  have htells := tells_ofCalls calls
  have hshows := Catalogue.shows_ofCalls calls
  have hfree : ∀ a, ¬ (Building.ofCalls calls).Taken a ↔
      ∀ earlier ∈ (Building.ofCalls calls).done, ¬ earlier.Clashes a := by
    intro a
    simp only [Taken, not_exists, not_and]
  constructor
  case succeeds => exact fun a => htells.apply_ok_iff.trans (and_congr_left' (hfree a))
  case fails =>
    intro a fault
    rw [← hfree a]
    exact htells.apply_eq_error_iff
  case accepted =>
    intro a w h
    rw [Building.ofCalls_concat, step_of_ok h]
  case refused =>
    intro a fault h
    rw [Building.ofCalls_concat, step_of_error h]
  case rooms => exact htells.rooms
  case items => exact htells.items
  case room_iff =>
    exact fun name r => room?_eq_some_iff.trans (and_congr_left' htells.mem_rooms_iff)
  case item_iff =>
    exact fun name i => item?_eq_some_iff.trans (and_congr_left' htells.mem_items_iff)
  case answers =>
    intro a
    have hact := hshows.act_eq a
    rw [hact, Catalogue.ofCalls_concat, Catalogue.step, hact]
    cases a.apply (Building.ofCalls calls).world with
    | error fault => rfl
    | ok w => rfl
  case atomic => exact Catalogue.atomic_act
  case listed => exact ⟨hshows.rooms, hshows.items⟩
  case indexed =>
    exact fun key i => ⟨hshows.roomsInStep.lt_length, hshows.itemsInStep.lt_length⟩
  case found => exact fun name => ⟨hshows.find?_rooms name, hshows.find?_items name⟩

-- the second hall is refused, and so is a statue that is to be carried
example : (Building.ofCalls [.room ⟨"Hall", "A hall.", []⟩, .room ⟨"HALL", "Another.", []⟩,
    .item ⟨"statue", "A statue.", false, [], .inventory⟩]).done.map Addition.name = ["Hall"] := by
  decide +kernel

end World
end TextAdventure
