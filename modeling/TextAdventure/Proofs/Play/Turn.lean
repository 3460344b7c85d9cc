/-
What happens during a turn.

A turn comes to a list of effects, those of the rules that fire and after them
those of the action that answers, and the state it leaves and what it shows are
what these effects make of them.  Which rules fire is told by relations that
follow the rules one by one, through the states and the draws that they leave
to each other.
-/
import TextAdventure.Adventure
import TextAdventure.Proofs.Effects

namespace TextAdventure

/-! ## Effects in order -/

/-- What comes of effects that are performed one after the other. -/
structure Enacted where
  fault : Option Fault
  state : State
  shown : List Shown

namespace Enacted

def after (shown : List Shown) (e : Enacted) : Enacted :=
  { e with shown := shown ++ e.shown }

/-- What a list of rules that ended like this answers, if otherwise it answers
`value`. -/
def answer {α : Type} (e : Enacted) (value : α) : Except Fault α :=
  match e.fault with
  | some fault => .error fault
  | none => .ok value

variable {α : Type} {e : Enacted}

theorem answer_of_done (h : e.fault = none) (value : α) : e.answer value = .ok value := by
  rw [answer, h]

theorem answer_of_fault {fault : Fault} (h : e.fault = some fault) (value : α) :
    e.answer value = .error fault := by
  rw [answer, h]

theorem fault_of_answer {fault : Fault} {value : α} (h : e.answer value = .error fault) :
    e.fault = some fault := by
  cases hfault : e.fault with
  | none =>
    rw [answer_of_done hfault] at h
    exact absurd h nofun
  | some fault' =>
    rw [answer_of_fault hfault] at h
    rw [Except.error.inj h]

end Enacted

/-- Perform effects, each for a command, as long as they succeed. -/
def enact (world : World) (s : State) : List (Command × Effect) → Enacted
  | [] => ⟨none, s, []⟩
  | (command, e) :: rest =>
    match e.apply world command s with
    | .error fault => ⟨some fault, s, []⟩
    | .ok (s, shown) => (enact world s rest).after shown

theorem enact_append {world : World} {s : State} {xs : List (Command × Effect)}
    (h : (enact world s xs).fault = none) (ys : List (Command × Effect)) :
    enact world s (xs ++ ys) =
      (enact world (enact world s xs).state ys).after (enact world s xs).shown := by
  induction xs generalizing s with
  | nil => rfl
  | cons x rest ih =>
    obtain ⟨command, e⟩ := x
    rw [List.cons_append, enact, enact] at *
    cases hstep : e.apply world command s with
    | error fault =>
      rw [hstep] at h
      exact absurd h (Option.some_ne_none fault)
    | ok done =>
      rw [hstep] at h
      show (enact world done.1 (rest ++ ys)).after done.2 = _
      rw [ih h, Enacted.after, Enacted.after, Enacted.after, ← List.append_assoc]
      rfl

theorem turns_enact (world : World) (s : State) (deeds : List (Command × Effect)) :
    (enact world s deeds).state.turns = s.turns := by
  induction deeds generalizing s with
  | nil => rfl
  | cons x rest ih =>
    obtain ⟨command, e⟩ := x
    rw [enact]
    cases hstep : e.apply world command s with
    | error fault => rfl
    | ok done =>
      show (enact world done.1 rest).state.turns = s.turns
      rw [ih, (Effect.does_of_apply hstep).turns]

/-! ## Rules -/

namespace Rule

def deeds (command : Command) (r : Rule) : List (Command × Effect) :=
  r.effects.map (command, ·)

/-- What comes of the effects of a rule. -/
def enacted (v : Scope) (s : State) (r : Rule) : Enacted :=
  enact v.world s (r.deeds v.command)

end Rule

def deedsOf (command : Command) (rules : List Rule) : List (Command × Effect) :=
  rules.flatMap (Rule.deeds command)

theorem enact_deedsOf_singleton (v : Scope) (s : State) (r : Rule) :
    enact v.world s (deedsOf v.command [r]) = r.enacted v s := by
  rw [deedsOf, List.flatMap_singleton]
  rfl

theorem enact_deedsOf_cons {v : Scope} {s : State} {r : Rule} (h : (r.enacted v s).fault = none)
    (rest : List Rule) :
    enact v.world s (deedsOf v.command (r :: rest)) =
      (enact v.world (r.enacted v s).state (deedsOf v.command rest)).after
        (r.enacted v s).shown := by
  rw [deedsOf, List.flatMap_cons]
  exact enact_append h (deedsOf v.command rest)

/-- The scene after effects were performed, with the draws that are left. -/
def Scene.become (scene : Scene) (e : Enacted) (draws : Draws) : Scene :=
  ⟨e.state, scene.shown ++ e.shown, draws⟩

theorem Scene.become_become (scene : Scene) (e e' : Enacted) (draws draws' : Draws) :
    (scene.become e draws).become e' draws' = scene.become (e'.after e.shown) draws' := by
  show Scene.mk e'.state (scene.shown ++ e.shown ++ e'.shown) draws' = _
  rw [List.append_assoc]
  rfl

theorem perform_eq_enact (world : World) (command : Command) (es : List Effect) (scene : Scene) :
    scene.perform world command es =
      ((enact world scene.state (es.map (command, ·))).fault,
        scene.become (enact world scene.state (es.map (command, ·))) scene.draws) := by
  induction es generalizing scene with
  | nil =>
    show (none, scene) = (none, Scene.mk scene.state (scene.shown ++ []) scene.draws)
    rw [List.append_nil]
  | cons e rest ih =>
    rw [Scene.perform, List.map_cons, enact]
    cases e.apply world command scene.state with
    | error fault =>
      show (some fault, scene) = (some fault, Scene.mk scene.state (scene.shown ++ []) scene.draws)
      rw [List.append_nil]
    | ok done =>
      show Scene.perform _ _ _ rest = _
      rw [ih, Scene.become, Scene.become, List.append_assoc]
      rfl

theorem Rule.run_of_miss {r : Rule} {v : Scope} {scene : Scene} {left : Draws}
    (h : r.isSatisfied v scene.state scene.draws = (false, left)) :
    r.run v scene = (.ok false, { scene with draws := left }) := by
  rw [run, h]

theorem Rule.run_of_hold {r : Rule} {v : Scope} {scene : Scene} {left : Draws}
    (h : r.isSatisfied v scene.state scene.draws = (true, left)) :
    r.run v scene =
      ((r.enacted v scene.state).answer true, scene.become (r.enacted v scene.state) left) := by
  have hperform : Scene.perform v.world v.command { scene with draws := left } r.effects =
      ((r.enacted v scene.state).fault, scene.become (r.enacted v scene.state) left) :=
    perform_eq_enact v.world v.command r.effects _
  rw [run, h]
  simp only [hperform]
  cases hfault : (r.enacted v scene.state).fault with
  | none => rw [Enacted.answer_of_done hfault]
  | some fault => rw [Enacted.answer_of_fault hfault]

namespace Adventure

theorem tryOccurs_cons {v : Scope} {r : Rule} {rest : List Rule} {scene scene' scene'' : Scene}
    {applied : Bool} {e : Enacted} {count : Nat} (hr : r.run v scene = (.ok applied, scene'))
    (hrest : tryOccurs v rest scene' = (e.answer count, scene'')) :
    tryOccurs v (r :: rest) scene = (e.answer (applied.toNat + count), scene'') := by
  rw [tryOccurs, hr]
  simp only [hrest]
  cases hfault : e.fault with
  | none => rw [Enacted.answer_of_done hfault, Enacted.answer_of_done hfault]
  | some fault => rw [Enacted.answer_of_fault hfault, Enacted.answer_of_fault hfault]

theorem tryOccurs_cons_of_error {v : Scope} {r : Rule} {rest : List Rule} {scene scene' : Scene}
    {fault : Fault} (hr : r.run v scene = (.error fault, scene')) :
    tryOccurs v (r :: rest) scene = (.error fault, scene') := by
  rw [tryOccurs, hr]

end Adventure

/-- How a list of rules is tried: each once and in order, against the state and
the draws that those before it leave, until one fails.  Those that fire are
listed, and if there is a fault the last of them fails. -/
inductive Tried (v : Scope) :
    List Rule → State → Draws → List Rule → Option Fault → State → Draws → Prop
  | done {s draws} : Tried v [] s draws [] none s draws
  | miss {r rest s s' draws between left fired fault}
      (hr : r.isSatisfied v s draws = (false, between))
      (hrest : Tried v rest s between fired fault s' left) :
      Tried v (r :: rest) s draws fired fault s' left
  | fire {r rest s s' draws between left fired fault}
      (hr : r.isSatisfied v s draws = (true, between))
      (hdone : (r.enacted v s).fault = none)
      (hrest : Tried v rest (r.enacted v s).state between fired fault s' left) :
      Tried v (r :: rest) s draws (r :: fired) fault s' left
  | fail {r rest s draws left fault} (hr : r.isSatisfied v s draws = (true, left))
      (hfault : (r.enacted v s).fault = some fault) :
      Tried v (r :: rest) s draws [r] (some fault)
        (r.enacted v s).state left

/-- That the conditions of no rule hold at a state, when each is tried with the
draws that those before it leave. -/
inductive Missed (v : Scope) (s : State) : List Rule → Draws → Draws → Prop
  | done {draws} : Missed v s [] draws draws
  | miss {r rest draws between left} (hr : r.isSatisfied v s draws = (false, between))
      (hrest : Missed v s rest between left) : Missed v s (r :: rest) draws left

/-- Trying rules comes to the effects of those that fire. -/
theorem exists_tried (v : Scope) (rules : List Rule) (scene : Scene) :
    ∃ fired e left, enact v.world scene.state (deedsOf v.command fired) = e ∧
      Tried v rules scene.state scene.draws fired e.fault e.state left ∧
      Adventure.tryOccurs v rules scene = (e.answer fired.length, scene.become e left) := by
  induction rules generalizing scene with
  | nil =>
    refine ⟨[], _, scene.draws, rfl, .done, ?_⟩
    show (Except.ok 0, scene) = (.ok 0, Scene.mk scene.state (scene.shown ++ []) scene.draws)
    rw [List.append_nil]
  | cons r rest ih =>
    cases hr : r.isSatisfied v scene.state scene.draws with
    | mk held between =>
      cases held with
      | false =>
        obtain ⟨fired, e, left, he, htried, heq⟩ := ih { scene with draws := between }
        refine ⟨fired, e, left, he, .miss hr htried, ?_⟩
        rw [Adventure.tryOccurs_cons (Rule.run_of_miss hr) heq, Bool.toNat_false, Nat.zero_add]
        rfl
      | true =>
        have hrun := Rule.run_of_hold hr
        cases hfault : (r.enacted v scene.state).fault with
        | some fault =>
          -- what fails is the last to fire, and the rest is not tried
          rw [Enacted.answer_of_fault hfault] at hrun
          refine ⟨[r], _, between, enact_deedsOf_singleton v scene.state r, ?_, ?_⟩
          · rw [hfault]
            exact .fail hr hfault
          · rw [Adventure.tryOccurs_cons_of_error hrun, Enacted.answer_of_fault hfault]
        | none =>
          rw [Enacted.answer_of_done hfault] at hrun
          obtain ⟨fired, e, left, he, htried, heq⟩ :=
            ih (scene.become (r.enacted v scene.state) between)
          refine ⟨r :: fired, e.after (r.enacted v scene.state).shown, left, ?_,
            .fire hr hfault htried, ?_⟩
          · rw [enact_deedsOf_cons hfault, ← he]
            rfl
          · rw [Adventure.tryOccurs_cons hrun heq, Scene.become_become, List.length_cons,
              Bool.toNat_true, Nat.add_comm]
            rfl

/-- Trying actions either misses them all or comes to the effects of the first
one whose conditions hold. -/
theorem tryActions_cases (v : Scope) (index : Nat) (rules : List Rule) (scene : Scene) :
    (∃ left, Missed v scene.state rules scene.draws left ∧
      Adventure.tryActions v index rules scene = (.ok none, { scene with draws := left })) ∨
    ∃ before r after between left, rules = before ++ r :: after ∧
      Missed v scene.state before scene.draws between ∧
      r.isSatisfied v scene.state between = (true, left) ∧
      Adventure.tryActions v index rules scene =
        ((r.enacted v scene.state).answer (some (index + before.length)),
          scene.become (r.enacted v scene.state) left) := by
  induction rules generalizing index scene with
  | nil => exact .inl ⟨scene.draws, .done, rfl⟩
  | cons r rest ih =>
    cases hr : r.isSatisfied v scene.state scene.draws with
    | mk held between =>
      cases held with
      | true =>
        refine .inr ⟨[], r, rest, scene.draws, between, rfl, .done, hr, ?_⟩
        rw [Adventure.tryActions, Rule.run_of_hold hr]
        cases hfault : (r.enacted v scene.state).fault with
        | none =>
          rw [Enacted.answer_of_done hfault, Enacted.answer_of_done hfault]
          rfl
        | some fault => rw [Enacted.answer_of_fault hfault, Enacted.answer_of_fault hfault]
      | false =>
        have hskip : Adventure.tryActions v index (r :: rest) scene =
            Adventure.tryActions v (index + 1) rest { scene with draws := between } := by
          rw [Adventure.tryActions, Rule.run_of_miss hr]
        rw [hskip]
        rcases ih (index + 1) { scene with draws := between } with
          ⟨left, hmissed, heq⟩ | ⟨before, r', after, between', left, rfl, hmissed, hr', heq⟩
        · exact .inl ⟨left, .miss hr hmissed, heq⟩
        · refine .inr ⟨r :: before, r', after, between', left, rfl, .miss hr hmissed, hr', ?_⟩
          rw [heq, List.length_cons, Nat.add_assoc, Nat.add_comm 1]
          rfl

/-! ## The turn -/

/-- How a turn goes once it has begun in the state `s`: what it comes to, in
effects each with the command it is performed for, what it answers, and which
draws are left.

The rules for every turn are tried on the empty command, whether or not they
stop the game.  If nothing fails and the game is still running, then the first
action whose conditions hold answers the command. -/
inductive Course (a : Adventure) (command : Command) (s : State) (draws : Draws) :
    List (Command × Effect) → Except Fault Outcome → Draws → Prop
  | cut {fired fault s' left}
      (htried : Tried ⟨a.world, .empty⟩ a.occurs s draws fired (some fault) s' left) :
      Course a command s draws (deedsOf .empty fired) (.error fault) left
  | stopped {fired s' left}
      (htried : Tried ⟨a.world, .empty⟩ a.occurs s draws fired none s' left)
      (hstopped : s'.running = false) :
      Course a command s draws (deedsOf .empty fired)
        (.ok ⟨s.turns, fired.length, none, false⟩) left
  | unanswered {fired s' between left}
      (htried : Tried ⟨a.world, .empty⟩ a.occurs s draws fired none s' between)
      (hrunning : s'.running = true)
      (hmissed : Missed ⟨a.world, command⟩ s' a.actions between left) :
      Course a command s draws (deedsOf .empty fired)
        (.ok ⟨s.turns, fired.length, none, true⟩) left
  | answered {fired s' between before r after between' left}
      (htried : Tried ⟨a.world, .empty⟩ a.occurs s draws fired none s' between)
      (hrunning : s'.running = true) (hsplit : a.actions = before ++ r :: after)
      (hmissed : Missed ⟨a.world, command⟩ s' before between between')
      (hr : r.isSatisfied ⟨a.world, command⟩ s' between' = (true, left)) :
      Course a command s draws (deedsOf .empty fired ++ r.deeds command)
        ((r.enacted ⟨a.world, command⟩ s').answer
          ⟨s.turns, fired.length, some before.length,
            (r.enacted ⟨a.world, command⟩ s').state.running⟩) left

def Scene.beginTurn (scene : Scene) : Scene :=
  { scene with state := scene.state.beginTurn }

namespace Adventure

variable {a : Adventure} {command : Command} {scene scene' scene'' : Scene}

theorem takeTurn_of_ended (h : scene.state.running = false) :
    a.takeTurn command scene = (.error .gameOver, scene) := by
  have hstopped : ¬ scene.state.running = true := Bool.eq_false_iff.1 h
  rw [takeTurn, if_neg hstopped]

theorem takeTurn_of_error {fault : Fault} (h : scene.state.running = true)
    (hoccurs : tryOccurs ⟨a.world, .empty⟩ a.occurs scene.beginTurn = (.error fault, scene')) :
    a.takeTurn command scene = (.error fault, scene') := by
  rw [Scene.beginTurn] at hoccurs
  rw [takeTurn, if_pos h]
  simp only [hoccurs]

theorem takeTurn_of_stopped {count : Nat} (h : scene.state.running = true)
    (hoccurs : tryOccurs ⟨a.world, .empty⟩ a.occurs scene.beginTurn = (.ok count, scene'))
    (hstopped : scene'.state.running = false) :
    a.takeTurn command scene =
      (.ok ⟨scene.state.beginTurn.turns, count, none, false⟩, scene') := by
  rw [Scene.beginTurn] at hoccurs
  rw [takeTurn, if_pos h]
  simp only [hoccurs, hstopped, Bool.false_eq_true, if_false]

theorem takeTurn_of_actions {count : Nat} {e : Enacted} {matched : Option Nat}
    (h : scene.state.running = true)
    (hoccurs : tryOccurs ⟨a.world, .empty⟩ a.occurs scene.beginTurn = (.ok count, scene'))
    (hrunning : scene'.state.running = true)
    (hactions : tryActions ⟨a.world, command⟩ 0 a.actions scene' = (e.answer matched, scene'')) :
    a.takeTurn command scene =
      (e.answer ⟨scene.state.beginTurn.turns, count, matched, scene''.state.running⟩, scene'') := by
  rw [Scene.beginTurn] at hoccurs
  rw [takeTurn, if_pos h]
  simp only [hoccurs, hrunning, hactions, if_true]
  cases hfault : e.fault with
  | none => rw [Enacted.answer_of_done hfault, Enacted.answer_of_done hfault]
  | some fault => rw [Enacted.answer_of_fault hfault, Enacted.answer_of_fault hfault]

/-- A turn of a running game takes a course, and comes to the effects of it. -/
theorem exists_course (a : Adventure) (command : Command) {scene : Scene}
    (h : scene.state.running = true) :
    ∃ deeds result left,
      Course a command scene.state.beginTurn scene.draws deeds result left ∧
      a.takeTurn command scene =
        (result, scene.become (enact a.world scene.state.beginTurn deeds) left) := by
  obtain ⟨fired, e, between, hbegun, htried, hoccurs⟩ :=
    exists_tried ⟨a.world, .empty⟩ a.occurs scene.beginTurn
  replace hbegun : enact a.world scene.state.beginTurn (deedsOf .empty fired) = e := hbegun
  replace hoccurs : tryOccurs ⟨a.world, .empty⟩ a.occurs scene.beginTurn =
    (e.answer fired.length, scene.become e between) := hoccurs
  cases hfault : e.fault with
  | some fault =>
    rw [hfault] at htried
    rw [Enacted.answer_of_fault hfault] at hoccurs
    exact ⟨_, _, _, .cut htried, by rw [takeTurn_of_error h hoccurs, hbegun]⟩
  | none =>
    rw [hfault] at htried
    rw [Enacted.answer_of_done hfault] at hoccurs
    cases hrunning : e.state.running with
    | false =>
      exact ⟨_, _, _, .stopped htried hrunning,
        by rw [takeTurn_of_stopped h hoccurs hrunning, hbegun]⟩
    | true =>
      rcases tryActions_cases ⟨a.world, command⟩ 0 a.actions (scene.become e between) with
        ⟨left, hmissed, hactions⟩ |
        ⟨before, r, after, between', left, hsplit, hmissed, hr, hactions⟩
      · refine ⟨_, _, _, .unanswered htried hrunning hmissed, ?_⟩
        have hnone : tryActions ⟨a.world, command⟩ 0 a.actions (scene.become e between) =
            ((Enacted.mk none e.state []).answer none, scene.become e left) := hactions
        rw [takeTurn_of_actions h hoccurs hrunning hnone, hbegun]
        show (Except.ok (Outcome.mk _ _ none e.state.running), _) = _
        rw [hrunning]
      · refine ⟨_, _, _, .answered htried hrunning hsplit hmissed hr, ?_⟩
        rw [takeTurn_of_actions h hoccurs hrunning hactions, Nat.zero_add, Scene.become_become]
        have hdone : (enact a.world scene.state.beginTurn (deedsOf .empty fired)).fault = none := by
          rw [hbegun, hfault]
        rw [enact_append hdone, hbegun]
        rfl

/-- What a turn does.  A game that has ended takes no turn and is left as it is.
Any other turn takes a course and comes to the effects of it, in order, as
begun: the count of turns grows by one and the rest is what they make of it. -/
theorem takeTurn_course (a : Adventure) (command : Command) (scene : Scene) :
    (scene.state.running = false → a.takeTurn command scene = (.error .gameOver, scene)) ∧
    (scene.state.running = true → ∃ deeds result left,
      Course a command scene.state.beginTurn scene.draws deeds result left ∧
      a.takeTurn command scene =
        (result, scene.become (enact a.world scene.state.beginTurn deeds) left) ∧
      (a.takeTurn command scene).2.state.turns = scene.state.turns + 1) := by
  refine ⟨takeTurn_of_ended, fun h => ?_⟩
  obtain ⟨deeds, result, left, hcourse, heq⟩ := exists_course a command h
  refine ⟨deeds, result, left, hcourse, heq, ?_⟩
  rw [heq]
  show (enact a.world scene.state.beginTurn deeds).state.turns = _
  rw [turns_enact]
  rfl

end Adventure

end TextAdventure
