/-
Adventures whose rules guard what they do.

A rule that leaves by an exit can ask for the exit first, and if it makes no
move before that one then the player is still where the exit was asked for.  If
all rules do so, and none carries what is fixed, then no turn fails.
-/
import TextAdventure.Proofs.Play.Naming
import TextAdventure.Proofs.Rules

namespace TextAdventure

/-! ## Guards -/

/-- The condition that asks for the exit by which an effect leaves. -/
def Effect.guard? : Effect → Option Condition
  | .go direction => some (.exit direction)
  | .goWord position => some (.exitWord position)
  | _ => none

/-- Whether a rule asks for every exit that it leaves by, in a condition written
like the guard of the effect, and makes no move before it leaves. -/
structure Rule.Guarded (r : Rule) : Prop where
  asks : ∀ e ∈ r.effects, ∀ c ∈ e.guard?, ∃ d ∈ r.conditions, d.same c = true
  moves : r.effects.Pairwise fun earlier later => earlier.moves = true → later.guard? = none

/-- Whether every rule is guarded and what a rule may leave with the player can
be carried. -/
structure Adventure.Guarded (a : Adventure) : Prop where
  rules : ∀ r ∈ a.rules, r.Guarded
  portable : ∀ r ∈ a.rules, ∀ e ∈ r.effects, ∀ name ∈ e.carries,
    ∀ item ∈ a.world.item? name, item.portable = true

instance (r : Rule) : Decidable r.Guarded :=
  decidable_of_iff (_ ∧ _) ⟨fun h => ⟨h.1, h.2⟩, fun h => ⟨h.asks, h.moves⟩⟩

instance (a : Adventure) : Decidable a.Guarded :=
  decidable_of_iff (_ ∧ _) ⟨fun h => ⟨h.1, h.2⟩, fun h => ⟨h.rules, h.portable⟩⟩

/-- Whether the words that decide by which exits a rule leaves are of a family. -/
structure Rule.Within (P : NamedWord → Prop) (r : Rule) : Prop where
  conditions : ∀ c ∈ r.conditions, c.Within P
  effects : ∀ e ∈ r.effects, ∀ c ∈ e.guard?, c.Within P

namespace Effect

variable {world : World} {command : Command}

/-- Whether there is an exit in a room for an effect that leaves by one. -/
def Ready (world : World) (command : Command) (room : String) (e : Effect) : Prop :=
  ∀ direction, e.direction? command = some direction →
    ∃ r, world.room? room = some r ∧ r.hasExit direction = true

theorem ready_of_guard?_eq_none {e : Effect} {room : String} (h : e.guard? = none) :
    e.Ready world command room := by
  intro direction hdirection
  cases e with
  | go _ | goWord _ => exact absurd h nofun
  | _ => exact absurd hdirection nofun

theorem ready_of_holds {e : Effect} {c : Condition} {s : State} {draws : Draws}
    (hguard : e.guard? = some c) (h : (Condition.holds ⟨world, command⟩ s c draws).1 = true) :
    e.Ready world command s.room := by
  intro direction hdirection
  cases e with
  | go _ | goWord _ =>
    obtain rfl := Option.some.inj hguard
    obtain rfl := Option.some.inj hdirection
    exact (Option.any_eq_true _ _).1 h
  | _ => exact absurd hdirection nofun

end Effect

namespace Adventure

/-- Whether nothing that a rule does can fail: its names are exact, it is
guarded, and by its words it asks for the very exits that it leaves by. -/
structure Unfailing (P : NamedWord → Prop) (a : Adventure) : Prop where
  named : a.WellNamed
  guarded : a.Guarded
  kindred : Kindred P
  within : ∀ r ∈ a.rules, r.Within P

namespace Unfailing

variable {P : NamedWord → Prop} {a : Adventure} {command : Command} {s s' : State}
  {draws left : Draws}

/-! ## Effects -/

theorem not_fails (ha : a.Unfailing P) {r : Rule} (hr : r ∈ a.rules) {e : Effect}
    (he : e ∈ r.effects) (hs : s.WellPlaced a.world) (hready : e.Ready a.world command s.room)
    (fault : Fault) : ¬ Effect.Fails a.world command s e fault := by
  intro hfails
  rcases ha.named.cases_of_fails hr he hs hfails with
    ⟨direction, room, hdirection, hroom, hexit, -⟩ | ⟨name, hname, item, hitem, hfixed, -⟩
  · obtain ⟨room', hroom', hhas⟩ := hready direction hdirection
    obtain rfl : room = room' := Option.some.inj (hroom.symm.trans hroom')
    rw [Room.hasExit, hexit] at hhas
    exact absurd hhas Bool.false_ne_true
  · have hportable := ha.guarded.portable r hr e he name hname item hitem
    rw [hportable] at hfixed
    exact absurd hfixed (Ne.symm Bool.false_ne_true)

/-- Effects that are all ready where they begin do not fail, for none of them
takes the player away from where another one is to leave. -/
theorem enact_fault (ha : a.Unfailing P) {r : Rule} (hr : r ∈ a.rules) {es : List Effect}
    (hes : ∀ e ∈ es, e ∈ r.effects)
    (hmoves : es.Pairwise fun earlier later => earlier.moves = true → later.guard? = none)
    (hs : s.WellPlaced a.world) (hready : ∀ e ∈ es, e.Ready a.world command s.room) :
    (enact a.world s (es.map (command, ·))).fault = none := by
  induction es generalizing s with
  | nil => rfl
  | cons e rest ih =>
    obtain ⟨he, hrest⟩ := List.forall_mem_cons.1 hes
    obtain ⟨hfirst, hlater⟩ := List.pairwise_cons.1 hmoves
    obtain ⟨hnow, hthen⟩ := List.forall_mem_cons.1 hready
    rw [List.map_cons, enact]
    cases hstep : e.apply a.world command s with
    | error fault =>
      have hfails : Effect.Fails a.world command s e fault := Effect.fails_of_apply hstep
      exact absurd hfails (ha.not_fails hr he hs hnow fault)
    | ok done =>
      have hdoes : Effect.Does a.world command s e done.1 := Effect.does_of_apply hstep
      have hplaced : done.1.WellPlaced a.world := ha.named.wellPlaced_of_does hr he hs hdoes
      have hstill : ∀ e' ∈ rest, e'.Ready a.world command done.1.room := by
        intro e' he'
        cases hmove : e.moves with
        | true =>
          -- after a move nothing leaves by an exit any more
          exact Effect.ready_of_guard?_eq_none (hfirst e' he' hmove)
        | false =>
          rw [hdoes.room hmove]
          exact hthen e' he'
      exact ih hrest hlater hplaced hstill

/-! ## Rules -/

/-- The exit that a rule asks for is there when the rule leaves by it: the guard
is written like the condition that held, so it held as well. -/
theorem rule_fault (ha : a.Unfailing P) {r : Rule} (hr : r ∈ a.rules) (hs : s.WellPlaced a.world)
    (hsatisfied : r.isSatisfied ⟨a.world, command⟩ s draws = (true, left)) :
    (r.enacted ⟨a.world, command⟩ s).fault = none := by
  obtain ⟨hasks, hmoves⟩ := ha.guarded.rules r hr
  obtain ⟨hconditions, heffects⟩ := ha.within r hr
  have hready : ∀ e ∈ r.effects, e.Ready a.world command s.room := by
    intro e he
    cases hguard : e.guard? with
    | none => exact Effect.ready_of_guard?_eq_none hguard
    | some c =>
      obtain ⟨d, hd, hsame⟩ := hasks e he c hguard
      obtain ⟨between, hheld⟩ := Condition.exists_holds_of_allHold hd hsatisfied
      have hagree := Condition.holds_congr (v := ⟨a.world, command⟩) (s := s) ha.kindred
        (hconditions d hd) (heffects e he c hguard) hsame between
      rw [hagree] at hheld
      exact Effect.ready_of_holds hguard hheld
  exact ha.enact_fault hr (fun _ he => he) hmoves hs hready

theorem wellPlaced_enacted (ha : a.Unfailing P) {r : Rule} (hr : r ∈ a.rules)
    (hs : s.WellPlaced a.world) : (r.enacted ⟨a.world, command⟩ s).state.WellPlaced a.world := by
  refine enact_kept (fun x hx _ _ => ?_) hs
  obtain ⟨e, he, rfl⟩ := List.mem_map.1 hx
  exact ha.named.wellPlaced_of_does hr he

theorem tried (ha : a.Unfailing P) {rules fired : List Rule} {fault : Option Fault}
    (h : Tried ⟨a.world, command⟩ rules s draws fired fault s' left)
    (hrules : ∀ r ∈ rules, r ∈ a.rules) (hs : s.WellPlaced a.world) :
    fault = none ∧ s'.WellPlaced a.world := by
  induction h with
  | done => exact ⟨rfl, hs⟩
  | miss hmiss hrest ih =>
    have hlater := (List.forall_mem_cons.1 hrules).2
    exact ih hlater hs
  | fire hfire hdone hrest ih =>
    obtain ⟨hr, hlater⟩ := List.forall_mem_cons.1 hrules
    exact ih hlater (ha.wellPlaced_enacted hr hs)
  | fail hfire hfault =>
    have hr := (List.forall_mem_cons.1 hrules).1
    rw [ha.rule_fault hr hs hfire] at hfault
    exact absurd hfault nofun

/-! ## Turns -/

theorem course (ha : a.Unfailing P) {deeds : List (Command × Effect)}
    {result : Except Fault Outcome} (h : Course a command s draws deeds result left)
    (hs : s.WellPlaced a.world) : ∃ outcome, result = .ok outcome := by
  have hoccurs : ∀ r ∈ a.occurs, r ∈ a.rules := fun _ hr => List.mem_append_left _ hr
  cases h with
  | cut htried =>
    have hnone := (ha.tried htried hoccurs hs).1
    exact absurd hnone nofun
  | stopped htried hstopped => exact ⟨_, rfl⟩
  | unanswered htried hrunning hmissed => exact ⟨_, rfl⟩
  | answered htried hrunning hsplit hmissed hr =>
    have hplaced := (ha.tried htried hoccurs hs).2
    have hdone := ha.rule_fault (mem_rules_of_split hsplit) hplaced hr
    exact ⟨_, Enacted.answer_of_done hdone _⟩

/-- No turn fails unless the game has ended. -/
theorem takeTurn (ha : a.Unfailing P) (command : Command) {scene : Scene}
    (hs : scene.state.WellPlaced a.world) :
    (scene.state.running = true ∧ ∃ outcome, (a.takeTurn command scene).1 = .ok outcome) ∨
      (scene.state.running = false ∧ (a.takeTurn command scene).1 = .error .gameOver) := by
  cases hrunning : scene.state.running with
  | false =>
    refine .inr ⟨rfl, ?_⟩
    rw [takeTurn_of_ended hrunning]
  | true =>
    obtain ⟨deeds, result, left, hcourse, heq⟩ := exists_course a command hrunning
    have hbegun := ha.named.keeps.begins scene.state hs
    obtain ⟨outcome, rfl⟩ := ha.course hcourse hbegun
    refine .inl ⟨rfl, outcome, ?_⟩
    rw [heq]

end Unfailing
end Adventure
end TextAdventure
