/-
What a game displays.

Messages aside, a game displays rooms and items of its world.  The console takes
the listing of a room apart, and puts it together again as it was if no name and
no description has a carriage return in it.
-/
import TextAdventure.Console
import TextAdventure.Proofs.Play.Reading
import TextAdventure.Proofs.Text.Returns
import TextAdventure.Proofs.World

namespace TextAdventure

open Text

/-! ## The world on display -/

/-- Whether the rooms and items that are shown are of a world. -/
def Shown.Within (world : World) : Shown → Prop
  | .text _ => True
  | .room r lying => r ∈ world.rooms ∧ ∀ i ∈ lying, i ∈ world.items
  | .inventory carried => ∀ i ∈ carried, i ∈ world.items

theorem Shown.within_room {world : World} {name : String} {room : Room}
    (hroom : world.room? name = some room) (s : State) :
    ∀ x ∈ [Shown.room room (s.itemsHere world)], x.Within world :=
  List.forall_mem_singleton.2
    ⟨World.mem_of_room? hroom, fun _ hi => (List.mem_filter.1 hi).1⟩

namespace Effect

variable {world : World} {command : Command} {s s' : State} {shown : List Shown} {e : Effect}

theorem shown_of_unseen {moved : Except Fault State} (h : unseen moved = .ok (s', shown)) :
    shown = [] := by
  cases moved with
  | ok s'' =>
    obtain ⟨-, rfl⟩ := Prod.mk.inj (Except.ok.inj h)
    rfl
  | error fault => cases h

theorem within_of_apply (h : e.apply world command s = .ok (s', shown)) :
    ∀ x ∈ shown, x.Within world := by
  have hnothing : shown = [] → ∀ x ∈ shown, x.Within world := by
    rintro rfl
    exact List.forall_mem_nil _
  cases e with
  | print template | println template =>
    obtain ⟨-, rfl⟩ := Prod.mk.inj (Except.ok.inj h)
    exact List.forall_mem_singleton.2 trivial
  | look =>
    rw [apply, World.requireRoom] at h
    cases hroom : world.room? s.room with
    | none => rw [hroom] at h; cases h
    | some room =>
      rw [hroom] at h
      obtain ⟨-, rfl⟩ := Prod.mk.inj (Except.ok.inj h)
      exact Shown.within_room hroom s
  | inventory =>
    obtain ⟨-, rfl⟩ := Prod.mk.inj (Except.ok.inj h)
    exact List.forall_mem_singleton.2 fun i hi => (List.mem_filter.1 hi).1
  | goto room =>
    rw [apply] at h
    split at h
    · cases h
    · obtain ⟨-, rfl⟩ := Prod.mk.inj (Except.ok.inj h)
      exact hnothing rfl
  | go _ | goWord _ | get _ | drop _ | putHere _ | put _ _ | swap _ _ | destroy _ =>
    exact hnothing (shown_of_unseen h)
  | _ =>
    obtain ⟨-, rfl⟩ := Prod.mk.inj (Except.ok.inj h)
    exact hnothing rfl

end Effect

theorem within_enact {world : World} (deeds : List (Command × Effect)) (s : State) :
    ∀ x ∈ (enact world s deeds).shown, x.Within world := by
  induction deeds generalizing s with
  | nil => exact List.forall_mem_nil _
  | cons deed rest ih =>
    obtain ⟨command, e⟩ := deed
    rw [enact]
    cases happly : e.apply world command s with
    | error fault => exact List.forall_mem_nil _
    | ok done => exact List.forall_mem_append.2 ⟨Effect.within_of_apply happly, ih done.1⟩

namespace Game

theorem shown_takeTurn (g : Game) (command : Command) :
    (g.takeTurn command).shown =
      (g.adventure.takeTurn command ⟨g.state, [], g.draws⟩).2.shown := by
  unfold takeTurn
  split
  · next heq => rw [heq]
  · next heq => rw [heq]

theorem within_takeTurn (g : Game) (command : Command) :
    ∀ x ∈ (g.takeTurn command).shown, x.Within g.adventure.world := by
  cases hrunning : g.state.running with
  | false =>
    rw [takeTurn_of_ended hrunning]
    exact List.forall_mem_nil _
  | true =>
    have hbegins : (Scene.mk g.state [] g.draws).state.running = true := hrunning
    obtain ⟨deeds, result, left, -, heq⟩ := Adventure.exists_course g.adventure command hbegins
    rw [shown_takeTurn, heq]
    exact within_enact deeds _

theorem within_opening {g : Game} {shown : List Shown} (h : g.opening = .ok shown) :
    ∀ x ∈ shown, x.Within g.adventure.world := by
  rw [opening, World.requireRoom] at h
  split at h
  · cases hroom : g.adventure.world.room? g.state.room with
    | none => rw [hroom] at h; cases h
    | some room =>
      rw [hroom] at h
      rw [← Except.ok.inj h]
      exact Shown.within_room hroom g.state
  · rw [← Except.ok.inj h]
    exact List.forall_mem_nil _

end Game

/-- A run displays what its turns do, besides prompts and echoes. -/
theorem Goes.within {input : Input} {world : World} {g : Game} {played : Nat} {lines : List Line}
    {r : Ran} (h : Goes input g played lines r) (hworld : g.adventure.world = world)
    (hprompt : ∀ x ∈ input.prompt, x.Within world)
    (hecho : ∀ line echo command, input.take line = some (echo, command) →
      ∀ x ∈ echo, x.Within world) :
    ∀ x ∈ r.shown, x.Within world := by
  have hturn : ∀ (g : Game) (command : Command), g.adventure.world = world →
      ∀ x ∈ (g.takeTurn command).shown, x.Within world := by
    rintro g command rfl
    exact g.within_takeTurn command
  induction h with
  | stopped _ => exact List.forall_mem_nil _
  | exhausted _ | unreadable _ _ => exact hprompt
  | skipped _ _ _ ih => exact List.forall_mem_append.2 ⟨hprompt, ih hworld⟩
  | turn _ htake _ _ ih =>
    have hbefore := List.forall_mem_append.2 ⟨hprompt, hecho _ _ _ htake⟩
    refine List.forall_mem_append.2
      ⟨List.forall_mem_append.2 ⟨hbefore, hturn _ _ hworld⟩, ih ?_⟩
    rw [Game.adventure_takeTurn, hworld]
  | failed _ htake _ _ =>
    have hbefore := List.forall_mem_append.2 ⟨hprompt, hecho _ _ _ htake⟩
    exact List.forall_mem_append.2 ⟨hbefore, hturn _ _ hworld⟩

/-! ## The console -/

/-- Whether no name and no description of a world has a carriage return. -/
structure World.ReturnFree (world : World) : Prop where
  rooms : ∀ r ∈ world.rooms, Text.ReturnFree r.name ∧ Text.ReturnFree r.description
  items : ∀ i ∈ world.items, Text.ReturnFree i.name ∧ Text.ReturnFree i.description

instance (world : World) : Decidable world.ReturnFree :=
  decidable_of_iff
    ((∀ r ∈ world.rooms, Text.ReturnFree r.name ∧ Text.ReturnFree r.description) ∧
      ∀ i ∈ world.items, Text.ReturnFree i.name ∧ Text.ReturnFree i.description)
    ⟨fun h => ⟨h.1, h.2⟩, fun h => ⟨h.rooms, h.items⟩⟩

namespace Listing

theorem returnFree_items {lying : List Item} (h : ∀ i ∈ lying, ReturnFree i.description) :
    ReturnFree (items lying) := by
  refine returnFree_join fun line hline => ?_
  obtain ⟨i, hi, rfl⟩ := List.mem_map.1 hline
  have hindent : ReturnFree "  " := by decide
  have hfeed : ReturnFree "\n" := by decide
  exact (hindent.append (h i hi)).append hfeed

theorem returnFree_room {r : Room} {lying : List Item} (hname : ReturnFree r.name)
    (hdescription : ReturnFree r.description)
    (hexits : ∀ e ∈ r.exits, ReturnFree e.direction.name)
    (hlying : ∀ i ∈ lying, ReturnFree i.description) : ReturnFree (room r lying) := by
  have hnothing : ReturnFree "" := by decide
  have hfeed : ReturnFree "\n" := by decide
  have hhead : ReturnFree s!"{r.name}\n{r.description}\n" :=
    ((hname.append hfeed).append hdescription).append hfeed
  have hitems : ReturnFree ("You can see:\n" ++ items lying) :=
    ReturnFree.append (by decide) (returnFree_items hlying)
  have hdirections : ReturnFree (directions (exits r)) := by
    refine returnFree_intercalate (by decide) fun direction hdirection => ?_
    obtain ⟨e, he, rfl⟩ := List.mem_map.1 hdirection
    exact (hexits e (List.mem_filter.1 he).1).lower
  have htail : ReturnFree s!"Exits: {directions (exits r)}\n" :=
    (ReturnFree.append (by decide) hdirections).append hfeed
  refine (hhead.append ?_).append ?_
  · split
    · exact hnothing
    · exact hitems
  · split
    · exact hnothing
    · exact htail

end Listing

/-- On the console a world without carriage returns is shown as it is on record. -/
theorem onConsole_eq_renderAll {world : World} (hworld : world.ReturnFree)
    (hdirections : ∀ r ∈ world.rooms, ∀ e ∈ r.exits, Text.ReturnFree e.direction.name)
    {shown : List Shown} (h : ∀ x ∈ shown, x.Within world) :
    Console.onConsole shown = Shown.renderAll shown := by
  refine congrArg String.join (List.map_congr_left fun x hx => ?_)
  cases x with
  | text message => rfl
  | inventory carried => rfl
  | room r lying =>
    obtain ⟨hr, hlying⟩ := h _ hx
    obtain ⟨hname, hdescription⟩ := hworld.rooms r hr
    have hfree := Listing.returnFree_room hname hdescription (hdirections r hr)
      fun i hi => (hworld.items i (hlying i hi)).2
    show String.ofList (dropReturns (Listing.room r lying).toList) = Listing.room r lying
    rw [dropReturns_of_not_mem hfree, String.ofList_toList]

end TextAdventure
