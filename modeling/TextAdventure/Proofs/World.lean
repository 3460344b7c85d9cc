/-
Worlds: what is added is found again, by its name as it was declared.
-/
import Mathlib.Data.List.Nodup
import TextAdventure.World

namespace TextAdventure

open Text

theorem find?_of_nodup_map {α : Type} {key : α → String} {l : List α}
    (h : (l.map key).Nodup) {a : α} (ha : a ∈ l) :
    l.find? (fun b => key b == key a) = some a := by
  cases hf : l.find? (fun b => key b == key a) with
  | none =>
    have := List.find?_eq_none.1 hf a ha
    simp at this
  | some b =>
    have hkey : key b = key a := by simpa using List.find?_some hf
    rw [List.inj_on_of_nodup_map h (List.mem_of_find?_eq_some hf) ha hkey]

namespace World

/-- Whether a room has exactly this name. -/
def HasRoom (w : World) (name : String) : Prop := ∃ r ∈ w.rooms, r.name = name

def HasItem (w : World) (name : String) : Prop := ∃ i ∈ w.items, i.name = name

theorem room?_of_mem {w : World} {r : Room} (h : r ∈ w.rooms) : w.room? r.name = some r :=
  find?_of_nodup_map w.rooms_nodup h

theorem item?_of_mem {w : World} {i : Item} (h : i ∈ w.items) : w.item? i.name = some i :=
  find?_of_nodup_map w.items_nodup h

theorem mem_of_room? {w : World} {name : String} {r : Room} (h : w.room? name = some r) :
    r ∈ w.rooms := List.mem_of_find?_eq_some h

theorem mem_of_item? {w : World} {name : String} {i : Item} (h : w.item? name = some i) :
    i ∈ w.items := List.mem_of_find?_eq_some h

theorem eq_of_mem_of_name {w : World} {i j : Item} (hi : i ∈ w.items) (hj : j ∈ w.items)
    (h : i.name = j.name) : i = j := by
  have hfound := item?_of_mem hi
  rw [h, item?_of_mem hj] at hfound
  exact (Option.some.inj hfound).symm

theorem nodup_itemNames (w : World) : (w.items.map Item.name).Nodup :=
  List.Nodup.of_map lower (by rw [List.map_map]; exact w.items_nodup)

theorem lower_name_of_room? {w : World} {name : String} {r : Room} (h : w.room? name = some r) :
    lower r.name = lower name := by
  have hkey := List.find?_some h
  exact eq_of_beq hkey

theorem room?_eq_some_iff {w : World} {name : String} {r : Room} :
    w.room? name = some r ↔ r ∈ w.rooms ∧ lower r.name = lower name := by
  refine ⟨fun h => ⟨mem_of_room? h, lower_name_of_room? h⟩, fun ⟨hr, hname⟩ => ?_⟩
  rw [room?, ← hname]
  exact room?_of_mem hr

theorem item?_eq_some_iff {w : World} {name : String} {i : Item} :
    w.item? name = some i ↔ i ∈ w.items ∧ lower i.name = lower name := by
  refine ⟨fun h => ⟨mem_of_item? h, eq_of_beq (List.find?_some h :)⟩, fun ⟨hi, hname⟩ => ?_⟩
  rw [item?, ← hname]
  exact item?_of_mem hi

theorem HasRoom.ne_none {w : World} {name : String} (h : w.HasRoom name) :
    w.room? name ≠ none := by
  obtain ⟨r, hr, rfl⟩ := h
  rw [room?_of_mem hr]
  exact Option.some_ne_none r

theorem HasItem.ne_none {w : World} {name : String} (h : w.HasItem name) :
    w.item? name ≠ none := by
  obtain ⟨i, hi, rfl⟩ := h
  rw [item?_of_mem hi]
  exact Option.some_ne_none i

/-! ## Building -/

theorem addRoom_eq_ok {w w' : World} {r : Room} (h : w.addRoom r = .ok w') :
    w'.rooms = w.rooms ++ [r] ∧ w'.items = w.items := by
  unfold addRoom at h
  split at h
  · exact absurd h nofun
  · rw [← Except.ok.inj h]
    exact ⟨rfl, rfl⟩

theorem addItem_eq_ok {w w' : World} {i : Item} (h : w.addItem i = .ok w') :
    w'.rooms = w.rooms ∧ w'.items = w.items ++ [i] := by
  unfold addItem at h
  split at h
  · exact absurd h nofun
  · split at h
    · exact absurd h nofun
    · rw [← Except.ok.inj h]
      exact ⟨rfl, rfl⟩

theorem addRoom_eq_error_iff {w : World} {r : Room} {fault : Fault} :
    w.addRoom r = .error fault ↔ r.key ∈ w.rooms.map Room.key ∧ fault = .duplicateRoom r.name := by
  rw [addRoom]
  split
  · next htaken => rw [Except.error.injEq, eq_comm, and_iff_right htaken]
  · next hnew => exact iff_of_false nofun fun h => hnew h.1

theorem key_not_mem_of_addRoom {w w' : World} {r : Room} (h : w.addRoom r = .ok w') :
    r.key ∉ w.rooms.map Room.key := by
  intro htaken
  rw [addRoom_eq_error_iff.2 ⟨htaken, rfl⟩] at h
  exact absurd h nofun

/-- That its name is taken is the first thing to be wrong with an item. -/
theorem addItem_eq_error_iff {w : World} {i : Item} {fault : Fault} :
    w.addItem i = .error fault ↔
      i.key ∈ w.items.map Item.key ∧ fault = .duplicateItem i.name ∨
      i.key ∉ w.items.map Item.key ∧ (i.start = .inventory ∧ i.portable = false) ∧
        fault = .notPortable i.name := by
  rw [addItem]
  split
  · next htaken =>
    rw [Except.error.injEq, eq_comm, or_iff_left fun h => h.1 htaken, and_iff_right htaken]
  · next hnew =>
    split
    · next hfixed =>
      rw [Except.error.injEq, eq_comm, or_iff_right fun h => hnew h.1, and_iff_right hnew,
        and_iff_right hfixed]
    · next hfree =>
      exact iff_of_false nofun fun h => h.elim (fun h => hnew h.1) fun h => hfree h.2.1

theorem key_not_mem_of_addItem {w w' : World} {i : Item} (h : w.addItem i = .ok w') :
    i.key ∉ w.items.map Item.key := by
  intro htaken
  rw [addItem_eq_error_iff.2 (.inl ⟨htaken, rfl⟩)] at h
  exact absurd h nofun

theorem addRooms_eq_ok {rooms : List Room} {w w' : World} (h : w.addRooms rooms = .ok w') :
    w'.rooms = w.rooms ++ rooms ∧ w'.items = w.items := by
  induction rooms generalizing w with
  | nil =>
    rw [← Except.ok.inj h, List.append_nil]
    exact ⟨rfl, rfl⟩
  | cons r rest ih =>
    rw [addRooms] at h
    split at h
    · next w₁ hadd =>
      obtain ⟨hrooms, hitems⟩ := addRoom_eq_ok hadd
      obtain ⟨hrooms', hitems'⟩ := ih h
      rw [hrooms', hitems', hrooms, hitems, List.append_assoc, List.singleton_append]
      exact ⟨rfl, rfl⟩
    · exact absurd h nofun

theorem addItems_eq_ok {items : List Item} {w w' : World} (h : w.addItems items = .ok w') :
    w'.rooms = w.rooms ∧ w'.items = w.items ++ items := by
  induction items generalizing w with
  | nil =>
    rw [← Except.ok.inj h, List.append_nil]
    exact ⟨rfl, rfl⟩
  | cons i rest ih =>
    rw [addItems] at h
    split at h
    · next w₁ hadd =>
      obtain ⟨hrooms, hitems⟩ := addItem_eq_ok hadd
      obtain ⟨hrooms', hitems'⟩ := ih h
      rw [hrooms', hitems', hrooms, hitems, List.append_assoc, List.singleton_append]
      exact ⟨rfl, rfl⟩
    · exact absurd h nofun

/-- Rooms can be added if no two of them, nor one of them and one that is there,
have one key. -/
theorem exists_addRooms {rooms : List Room} {w : World}
    (h : (w.rooms.map Room.key ++ rooms.map Room.key).Nodup) : ∃ w', w.addRooms rooms = .ok w' := by
  induction rooms generalizing w with
  | nil => exact ⟨w, rfl⟩
  | cons r rest ih =>
    have hnew : r.key ∉ w.rooms.map Room.key := fun hmem =>
      List.disjoint_of_nodup_append h hmem List.mem_cons_self
    obtain ⟨w₁, hadd⟩ : ∃ w₁, w.addRoom r = .ok w₁ := by
      rw [addRoom, dif_neg hnew]
      exact ⟨_, rfl⟩
    have hrest : (w₁.rooms.map Room.key ++ rest.map Room.key).Nodup := by
      rw [(addRoom_eq_ok hadd).1, List.map_append, List.append_assoc]
      exact h
    rw [addRooms, hadd]
    exact ih hrest

theorem exists_addItems {items : List Item} {w : World}
    (h : (w.items.map Item.key ++ items.map Item.key).Nodup)
    (hcarried : ∀ i ∈ items, i.start = .inventory → i.portable = true) :
    ∃ w', w.addItems items = .ok w' := by
  induction items generalizing w with
  | nil => exact ⟨w, rfl⟩
  | cons i rest ih =>
    obtain ⟨hfirst, hothers⟩ := List.forall_mem_cons.1 hcarried
    have hnew : i.key ∉ w.items.map Item.key := fun hmem =>
      List.disjoint_of_nodup_append h hmem List.mem_cons_self
    have hportable : ¬ (i.start = .inventory ∧ i.portable = false) := fun hfixed =>
      absurd (hfirst hfixed.1) (by rw [hfixed.2]; exact Bool.false_ne_true)
    obtain ⟨w₁, hadd⟩ : ∃ w₁, w.addItem i = .ok w₁ := by
      rw [addItem, dif_neg hnew, dif_neg hportable]
      exact ⟨_, rfl⟩
    have hrest : (w₁.items.map Item.key ++ rest.map Item.key).Nodup := by
      rw [(addItem_eq_ok hadd).2, List.map_append, List.append_assoc]
      exact h
    rw [addItems, hadd]
    exact ih hrest hothers

end World
end TextAdventure
