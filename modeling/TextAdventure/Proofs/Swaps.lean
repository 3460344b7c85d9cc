/-
Swaps, and how they are undone.

A swap puts one item where another was, and that one out of play.  In a game it
can be undone if the second item was out of play before: what is carried can be
carried, so the swap back is never refused, and every item has its entry in the
table of places, so that writing the old places again leaves the very same table.
-/
import TextAdventure.Proofs.InPlace
import TextAdventure.Proofs.Placement

namespace TextAdventure
namespace State

open InPlace

variable {world : World} {s s' : State} {a b : String} {i j : Item}

/-- What a swap leaves of two items and of all else. -/
structure Swapped (s s' : State) (first second : String) : Prop where
  gone : s'.placeOf first = .nowhere
  moved : s'.placeOf second = s.placeOf first
  others : ∀ name, name ≠ first → name ≠ second → s'.places.find? name = s.places.find? name
  rest : s' = { s with places := s'.places }

theorem swapItems_of_items (ha : world.item? a = some i) (hb : world.item? b = some j) :
    s.swapItems world a b =
      if s.placeOf i.name = .inventory ∧ j.portable = false then .error (.notPortable j.name)
      else .ok ((s.setPlace i.name .nowhere).setPlace j.name (s.placeOf i.name)) := by
  rw [swapItems, World.requireItem, World.requireItem, ha, hb]

theorem swapItems_eq_error_iff (ha : world.item? a = some i) (hb : world.item? b = some j)
    {fault : Fault} :
    s.swapItems world a b = .error fault ↔
      (s.isCarried i.name = true ∧ j.portable = false) ∧ fault = .notPortable j.name := by
  rw [swapItems_of_items ha hb, isCarried, beq_iff_eq]
  split
  · next hfixed =>
    rw [and_iff_right hfixed, Except.error.injEq]
    exact eq_comm
  · next hfree => exact iff_of_false nofun fun h => hfree h.1

theorem swapped_setPlace (hne : i.name ≠ j.name) :
    Swapped s ((s.setPlace i.name .nowhere).setPlace j.name (s.placeOf i.name))
      i.name j.name where
  gone := by rw [placeOf_setPlace, if_neg hne, placeOf_setPlace, if_pos rfl]
  moved := by rw [placeOf_setPlace, if_pos rfl]
  others name hi hj := by
    simp only [setPlace, Table.find?_insert, if_neg hi, if_neg hj]
  rest := rfl

/-- The swap back writes what was there before. -/
theorem Placed.swapItems_back (h : s.Placed world) (hi : i ∈ world.items) (hj : j ∈ world.items)
    (ha : world.item? a = some i) (hb : world.item? b = some j)
    (hswapped : Swapped s s' i.name j.name) (hout : s.placeOf j.name = .nowhere) :
    s'.swapItems world b a = .ok s := by
  have hfree : ¬ (s'.placeOf j.name = .inventory ∧ i.portable = false) := by
    rintro ⟨hcarried, hfixed⟩
    rw [hswapped.moved] at hcarried
    rw [h.portable i hi hcarried] at hfixed
    exact absurd hfixed (Ne.symm Bool.false_ne_true)
  rw [swapItems_of_items hb ha, if_neg hfree, hswapped.moved]
  have hplaces : ((s'.places.insert j.name .nowhere).insert i.name (s.placeOf i.name)) =
      s.places := by
    refine Table.ext_find? fun name => ?_
    rw [Table.find?_insert, Table.find?_insert]
    by_cases hni : name = i.name
    · rw [if_pos hni, hni, h.find? hi]
    · by_cases hnj : name = j.name
      · rw [if_neg hni, if_pos hnj, hnj, h.find? hj, hout]
      · rw [if_neg hni, if_neg hnj, hswapped.others name hni hnj]
  rw [hswapped.rest]
  show Except.ok { s with
    places := (s'.places.insert j.name .nowhere).insert i.name (s.placeOf i.name) } = _
  rw [hplaces]

/-- A swap of two items is refused exactly if the first is carried and the second
is fixed, and then nothing has changed, although the swap is carried out in place.
Otherwise the first is gone, the second is where the first was, and all else is as
it was.  In a game, if the second was nowhere before, the swap back succeeds and
the state is the one before both. -/
theorem swap_undone (world : World) (start : String) (changes : List Change)
    (ha : world.item? a = some i) (hb : world.item? b = some j) (hne : i ≠ j) :
    let s := (initial world start).after world changes
    (∀ fault, s.swapItems world a b = .error fault ↔
      (s.isCarried i.name = true ∧ j.portable = false) ∧ fault = .notPortable j.name) ∧
    (∀ fault s', swapInPlace world a b s = .error fault s' →
      s' = s ∧ s.swapItems world a b = .error fault) ∧
    (¬ (s.isCarried i.name = true ∧ j.portable = false) →
      ∃ s', s.swapItems world a b = .ok s' ∧ swapInPlace world a b s = .ok () s' ∧
        Swapped s s' i.name j.name ∧
        (s.placeOf j.name = .nowhere → s'.swapItems world b a = .ok s)) := by
  intro s
  have hplaced : s.Placed world := (placed_initial world start).after changes
  have hi := World.mem_of_item? ha
  have hj := World.mem_of_item? hb
  have hnames : i.name ≠ j.name := fun h => hne (World.eq_of_mem_of_name hi hj h)
  refine ⟨fun fault => swapItems_eq_error_iff ha hb, fun fault s' hfails => ?_, fun hfree => ?_⟩
  · rw [swapInPlace_eq, settle_eq_error_iff] at hfails
    exact hfails
  · have hswapped := swapped_setPlace (s := s) hnames
    have hswap := swapItems_of_items (s := s) ha hb
    rw [isCarried, beq_iff_eq] at hfree
    rw [if_neg hfree] at hswap
    refine ⟨_, hswap, ?_, hswapped, hplaced.swapItems_back hi hj ha hb hswapped⟩
    rw [swapInPlace_eq, hswap]
    rfl

/-- A lamp can be broken and mended again, and who carries it cannot have the
statue in its stead. -/
theorem swap_undone_sample :
    let s := initial Sample.gallery "hall"
    let s' := s.after Sample.gallery [.moveItem "lamp" .inventory]
    (s.placeOf "broken lamp" = .nowhere ∧
      ∃ broken, s.swapItems Sample.gallery "lamp" "broken lamp" = .ok broken ∧
        broken.placeOf "broken lamp" = .room "hall" ∧
        broken.swapItems Sample.gallery "broken lamp" "lamp" = .ok s) ∧
    s'.isCarried "lamp" = true ∧
      s'.swapItems Sample.gallery "lamp" "statue" = .error (.notPortable "statue") := by
  intro s s'
  have hlamp : Sample.gallery.item? "lamp" = some Sample.lantern :=
    World.item?_of_mem (i := Sample.lantern) (.head _)
  have hwreck : Sample.gallery.item? "broken lamp" = some Sample.wreck :=
    World.item?_of_mem (i := Sample.wreck) (.tail _ (.head _))
  have hstatue : Sample.gallery.item? "statue" = some Sample.statue :=
    World.item?_of_mem (i := Sample.statue) (.tail _ (.tail _ (.head _)))
  have hne : Sample.lantern ≠ Sample.wreck := fun h => absurd (congrArg Item.name h) (by decide)
  have hne' : Sample.lantern ≠ Sample.statue := fun h => absurd (congrArg Item.name h) (by decide)
  have hout : s.placeOf "broken lamp" = .nowhere := by decide +kernel
  have hcarried : s'.isCarried "lamp" = true := by decide +kernel
  obtain ⟨-, -, hfree⟩ := swap_undone Sample.gallery "hall" [] hlamp hwreck hne
  obtain ⟨broken, hswap, -, hswapped, hback⟩ := hfree fun h => absurd h.2 (by decide)
  obtain ⟨hfixed, -, -⟩ :=
    swap_undone Sample.gallery "hall" [.moveItem "lamp" .inventory] hlamp hstatue hne'
  exact ⟨⟨hout, broken, hswap, hswapped.moved.trans (by decide +kernel), hback hout⟩,
    hcarried, (hfixed _).2 ⟨⟨hcarried, rfl⟩, rfl⟩⟩

end State
end TextAdventure
