/-
What effects do, and what they fail of.

Most effects change nothing but flags, counters and strings, or nothing at all.
The others take the player to a room or put items in their places, and only
they can fail.
-/
import TextAdventure.Effect

namespace TextAdventure

open Text

namespace Effect

/-! ## Parts of effects -/

/-- The direction in which an effect leaves the room. -/
def direction? (command : Command) : Effect → Option Word
  | .go direction => some direction
  | .goWord position => some (command.word position)
  | _ => none

/-- Whether an effect takes the player to a room. -/
def moves : Effect → Bool
  | .go _ => true
  | .goWord _ => true
  | .goto _ => true
  | _ => false

theorem moves_of_direction? {command : Command} {e : Effect} {direction : Word}
    (h : e.direction? command = some direction) : e.moves = true := by
  cases e with
  | go direction => rfl
  | goWord position => rfl
  | _ => exact absurd h nofun

/-- The item that an effect puts in a place, and the place. -/
def placement? (s : State) : Effect → Option (String × Location)
  | .get item => some (item, .inventory)
  | .drop item => some (item, .room s.room)
  | .putHere item => some (item, .room s.room)
  | .put item place => some (item, place)
  | .destroy item => some (item, .nowhere)
  | _ => none

/-- The rooms that an effect names. -/
def rooms : Effect → List String
  | .goto room => [room]
  | .put _ (.room room) => [room]
  | _ => []

/-- The items that an effect names. -/
def items : Effect → List String
  | .get item => [item]
  | .drop item => [item]
  | .putHere item => [item]
  | .put item _ => [item]
  | .swap a b => [a, b]
  | .destroy item => [item]
  | _ => []

/-- The items that an effect may leave with the player. -/
def carries : Effect → List String
  | .get item => [item]
  | .put item .inventory => [item]
  | .swap _ b => [b]
  | _ => []

/-! ## Outcomes -/

/-- What an effect that succeeds does to the state. -/
inductive Does (world : World) (command : Command) (s : State) : Effect → State → Prop
  | other {e s'} (hroom : s'.room = s.room) (hplaces : s'.places = s.places)
      (hturns : s'.turns = s.turns) : Does world command s e s'
  | leave {e direction room exit} (hdirection : e.direction? command = some direction)
      (hroom : world.room? s.room = some room) (hexit : room.exitTowards direction = some exit) :
      Does world command s e (s.enter exit.target)
  | enter {name room} (hroom : world.room? name = some room) :
      Does world command s (.goto name) (s.enter room.name)
  | place {e name place item} (hplacement : e.placement? s = some (name, place))
      (hitem : world.item? name = some item)
      (hportable : place = .inventory → item.portable = true) :
      Does world command s e (s.setPlace item.name place)
  | swap {a b first second} (hfirst : world.item? a = some first)
      (hsecond : world.item? b = some second) :
      Does world command s (.swap a b)
        ((s.setPlace first.name .nowhere).setPlace second.name (s.placeOf first.name))

/-- Why an effect fails. -/
inductive Fails (world : World) (command : Command) (s : State) : Effect → Fault → Prop
  | lost {e} (hroom : world.room? s.room = none) : Fails world command s e (.unknownRoom s.room)
  | astray {name} (hroom : world.room? name = none) :
      Fails world command s (.goto name) (.unknownRoom name)
  | noExit {e direction room} (hdirection : e.direction? command = some direction)
      (hroom : world.room? s.room = some room) (hexit : room.exitTowards direction = none) :
      Fails world command s e (.noExit room.name (lower direction.name))
  | missing {e name} (hname : name ∈ e.items) (hitem : world.item? name = none) :
      Fails world command s e (.unknownItem name)
  | fixed {e name item} (hname : name ∈ e.carries) (hitem : world.item? name = some item)
      (hportable : item.portable = false) : Fails world command s e (.notPortable item.name)

/-- The outcomes of an effect: either it does something or it fails. -/
def Comes (world : World) (command : Command) (s : State) (e : Effect) :
    Except Fault (State × List Shown) → Prop
  | .ok (s', _) => Does world command s e s'
  | .error fault => Fails world command s e fault

variable {world : World} {command : Command} {s : State}

theorem comes_travel {e : Effect} {direction : Word} (h : e.direction? command = some direction) :
    Comes world command s e (unseen (travel world s direction)) := by
  unfold travel World.requireRoom
  cases hroom : world.room? s.room with
  | none => exact .lost hroom
  | some room =>
    dsimp only
    cases hexit : room.exitTowards direction with
    | none => exact .noExit h hroom hexit
    | some exit => exact .leave h hroom hexit

theorem comes_moveItem {e : Effect} {name : String} {place : Location}
    (h : e.placement? s = some (name, place)) (hname : name ∈ e.items)
    (hcarries : place = .inventory → name ∈ e.carries) :
    Comes world command s e (unseen (s.moveItem world name place)) := by
  unfold State.moveItem World.requireItem
  cases hitem : world.item? name with
  | none => exact .missing hname hitem
  | some item =>
    dsimp only
    split
    · next hfixed => exact .fixed (hcarries hfixed.1) hitem hfixed.2
    · next hfree =>
      refine .place h hitem fun hplace => ?_
      exact (Bool.eq_false_or_eq_true item.portable).resolve_right fun hp => hfree ⟨hplace, hp⟩

theorem comes_swapItems {a b : String} :
    Comes world command s (.swap a b) (unseen (s.swapItems world a b)) := by
  unfold State.swapItems World.requireItem
  cases hfirst : world.item? a with
  | none => exact .missing List.mem_cons_self hfirst
  | some first =>
    cases hsecond : world.item? b with
    | none => exact .missing (List.mem_cons_of_mem _ List.mem_cons_self) hsecond
    | some second =>
      dsimp only
      split
      · next hfixed => exact .fixed List.mem_cons_self hsecond hfixed.2
      · exact .swap hfirst hsecond

theorem comes_apply (e : Effect) : Comes world command s e (e.apply world command s) := by
  cases e with
  | go direction | goWord position => exact comes_travel rfl
  | get item => exact comes_moveItem rfl List.mem_cons_self fun _ => List.mem_cons_self
  | drop item | putHere item | destroy item =>
    exact comes_moveItem rfl List.mem_cons_self nofun
  | put item place =>
    refine comes_moveItem rfl List.mem_cons_self ?_
    rintro rfl
    exact List.mem_cons_self
  | swap a b => exact comes_swapItems
  | look =>
    rw [apply, World.requireRoom]
    cases hroom : world.room? s.room with
    | none => exact .lost hroom
    | some room => exact .other rfl rfl rfl
  | goto name =>
    rw [apply, World.requireRoom]
    cases hroom : world.room? name with
    | none => exact .astray hroom
    | some room => exact .enter hroom
  | _ => exact .other rfl rfl rfl

theorem does_of_apply {e : Effect} {s' : State} {shown : List Shown}
    (h : e.apply world command s = .ok (s', shown)) : Does world command s e s' := by
  have hcomes : Comes world command s e _ := comes_apply e
  rwa [h] at hcomes

theorem fails_of_apply {e : Effect} {fault : Fault}
    (h : e.apply world command s = .error fault) : Fails world command s e fault := by
  have hcomes : Comes world command s e _ := comes_apply e
  rwa [h] at hcomes

/-! ## What is kept -/

/-- No effect counts as a turn. -/
theorem Does.turns {e : Effect} {s' : State} (h : Does world command s e s') :
    s'.turns = s.turns := by
  cases h with
  | other hroom hplaces hturns => exact hturns
  | _ => rfl

/-- The player stays unless the effect is a move. -/
theorem Does.room {e : Effect} {s' : State} (h : Does world command s e s')
    (hmoves : e.moves = false) : s'.room = s.room := by
  cases h with
  | other hroom hplaces hturns => exact hroom
  | leave hdirection hroom hexit =>
    rw [moves_of_direction? hdirection] at hmoves
    exact absurd hmoves (Ne.symm Bool.false_ne_true)
  | enter hroom => exact absurd hmoves (Ne.symm Bool.false_ne_true)
  | place hplacement hitem hportable => rfl
  | swap hfirst hsecond => rfl

end Effect
end TextAdventure
