/-
Effects carried out in place.

An effect answers with the state it leaves or with a fault, so a failure leaves no
state at all.  Here the same effects are carried out step by step on a scene that
is there, and what one step has written stays written when a later one fails.  It
turns out that no effect writes anything before its last check: it does all that
it does or nothing.  A rule is no such whole.  It stops at the first effect that
fails, with those before it done.
-/
import TextAdventure.Rule

namespace TextAdventure

open Text

/-- Steps that change what is there.  When one fails, the changes before it
remain. -/
abbrev InPlace (σ : Type) := EStateM Fault σ

namespace InPlace

variable {σ α : Type}

def require : Except Fault α → InPlace σ α
  | .ok a => pure a
  | .error fault => throw fault

/-- Whether a failure leaves everything as it was. -/
def Atomic (steps : InPlace σ α) : Prop :=
  ∀ before fault after, steps before = .error fault after → after = before

/-- What is there after an answer, if a fault changes nothing. -/
def settle (before : σ) : Except Fault σ → EStateM.Result Fault σ Unit
  | .ok after => .ok () after
  | .error fault => .error fault before

theorem settle_eq_error_iff {before after : σ} {answer : Except Fault σ} {fault : Fault} :
    settle before answer = .error fault after ↔ after = before ∧ answer = .error fault := by
  cases answer with
  | ok done => exact iff_of_false nofun fun h => absurd h.2 nofun
  | error fault' =>
    rw [settle, EStateM.Result.error.injEq, Except.error.injEq, and_comm, eq_comm (a := before)]

theorem require_ok {β : Type} (a : α) (next : α → InPlace σ β) :
    require (.ok a) >>= next = next a := rfl

end InPlace

open InPlace

/-! ## Steps on a state -/

namespace State

def moveInPlace (world : World) (item : String) (place : Location) : InPlace State Unit := do
  let i ← require (world.requireItem item)
  if place = .inventory ∧ i.portable = false then
    throw (.notPortable i.name)
  else
    modify (·.setPlace i.name place)

def swapInPlace (world : World) (a b : String) : InPlace State Unit := do
  let first ← require (world.requireItem a)
  let second ← require (world.requireItem b)
  let place := (← get).placeOf first.name
  if place = .inventory ∧ second.portable = false then
    throw (.notPortable second.name)
  else
    modify (·.setPlace first.name .nowhere)
    modify (·.setPlace second.name place)

def leaveInPlace (world : World) (direction : Word) : InPlace State Unit := do
  let room ← require (world.requireRoom (← get).room)
  match room.exitTowards direction with
  | none => throw (.noExit room.name (lower direction.name))
  | some exit => modify (·.enter exit.target)

def enterInPlace (world : World) (name : String) : InPlace State Unit := do
  let room ← require (world.requireRoom name)
  modify (·.enter room.name)

variable {world : World} {item a b name : String} {place : Location} {direction : Word}
  {s : State}

theorem moveInPlace_eq :
    moveInPlace world item place s = settle s (s.moveItem world item place) := by
  unfold moveInPlace moveItem
  cases world.requireItem item with
  | error fault => rfl
  | ok i =>
    rw [require_ok]
    dsimp only
    split
    · rfl
    · rfl

theorem swapInPlace_eq : swapInPlace world a b s = settle s (s.swapItems world a b) := by
  unfold swapInPlace swapItems
  cases world.requireItem a with
  | error fault => rfl
  | ok first =>
    rw [require_ok]
    cases world.requireItem b with
    | error fault => rfl
    | ok second =>
      rw [require_ok]
      show (if _ then _ else _ : InPlace State Unit) s = settle s (if _ then _ else _)
      split
      · rfl
      · rfl

theorem leaveInPlace_eq :
    leaveInPlace world direction s = settle s (Effect.travel world s direction) := by
  show (require (world.requireRoom s.room) >>= _ : InPlace State Unit) s = _
  unfold Effect.travel
  cases world.requireRoom s.room with
  | error fault => rfl
  | ok room =>
    rw [require_ok]
    dsimp only
    cases room.exitTowards direction with
    | none => rfl
    | some exit => rfl

theorem enterInPlace_eq : enterInPlace world name s =
    settle s ((world.requireRoom name).map fun room => s.enter room.name) := by
  unfold enterInPlace
  cases world.requireRoom name with
  | error fault => rfl
  | ok room => rfl

end State

/-! ## Steps on a scene -/

namespace Scene

def current : InPlace Scene State := do
  return (← get).state

/-- Steps on the state of a scene. -/
def onState (steps : InPlace State Unit) : InPlace Scene Unit := fun scene =>
  match steps scene.state with
  | .ok () state => .ok () { scene with state }
  | .error fault state => .error fault { scene with state }

def display (shown : Shown) : InPlace Scene Unit :=
  modify fun scene => { scene with shown := scene.shown ++ [shown] }

/-- What comes of a scene by the answer of an effect, if a fault changes nothing. -/
def receive (scene : Scene) : Except Fault (State × List Shown) → EStateM.Result Fault Scene Unit
  | .ok (state, shown) => .ok () { scene with state, shown := scene.shown ++ shown }
  | .error fault => .error fault scene

theorem receive_eq_error_iff {scene scene' : Scene} {answer : Except Fault (State × List Shown)}
    {fault : Fault} :
    scene.receive answer = .error fault scene' ↔ scene' = scene ∧ answer = .error fault := by
  cases answer with
  | ok done => exact iff_of_false nofun fun h => absurd h.2 nofun
  | error fault' =>
    rw [receive, EStateM.Result.error.injEq, Except.error.injEq, and_comm, eq_comm (a := scene)]

theorem onState_eq {steps : InPlace State Unit} {answer : Except Fault State} {scene : Scene}
    (h : steps scene.state = settle scene.state answer) :
    onState steps scene = scene.receive (Effect.unseen answer) := by
  rw [onState, h]
  cases answer with
  | error fault => rfl
  | ok state =>
    show _ = EStateM.Result.ok () (Scene.mk state (scene.shown ++ []) scene.draws)
    rw [List.append_nil]
    rfl

theorem onState_modify (change : State → State) (scene : Scene) :
    onState (modify change) scene = scene.receive (.ok (change scene.state, [])) := by
  have h : (modify change : InPlace State Unit) scene.state =
      settle scene.state (.ok (change scene.state)) := rfl
  exact onState_eq h

end Scene

namespace Effect

open Scene

/-- An effect, carried out step by step. -/
def act (world : World) (command : Command) : Effect → InPlace Scene Unit
  | .print template => display (.text (command.fill template))
  | .println template => display (.text (command.fill template ++ "\n"))
  | .look => do
    let room ← require (world.requireRoom (← current).room)
    display (.room room ((← current).itemsHere world))
  | .inventory => do display (.inventory ((← current).itemsAt world .inventory))
  | .go direction => onState (State.leaveInPlace world direction)
  | .goWord position => onState (State.leaveInPlace world (command.word position))
  | .goto room => onState (State.enterInPlace world room)
  | .get item => onState (State.moveInPlace world item .inventory)
  | .drop item => do onState (State.moveInPlace world item (.room (← current).room))
  | .putHere item => do onState (State.moveInPlace world item (.room (← current).room))
  | .put item place => onState (State.moveInPlace world item place)
  | .swap a b => onState (State.swapInPlace world a b)
  | .destroy item => onState (State.moveInPlace world item .nowhere)
  | .setFlag name => onState (modify (·.setFlag name true))
  | .resetFlag name => onState (modify (·.setFlag name false))
  | .setCounter name value => onState (modify (·.setCounter name value))
  | .increment name => onState (modify (·.increment name))
  | .decrement name => onState (modify (·.decrement name))
  | .resetCounter name => onState (modify (·.setCounter name 0))
  | .setString name value => onState (modify (·.setString name value))
  | .quit => onState (modify (·.quit))

variable {world : World} {command : Command} {scene : Scene}

theorem act_eq (world : World) (command : Command) (e : Effect) (scene : Scene) :
    e.act world command scene = scene.receive (e.apply world command scene.state) := by
  cases e with
  | print template | println template | inventory => rfl
  | look =>
    show (require (world.requireRoom scene.state.room) >>= _ : InPlace Scene Unit) scene = _
    rw [apply]
    cases world.requireRoom scene.state.room with
    | error fault => rfl
    | ok room => rfl
  | go direction | goWord position => exact onState_eq State.leaveInPlace_eq
  | goto room =>
    rw [act, onState_eq State.enterInPlace_eq, apply]
    cases world.requireRoom room with
    | error fault => rfl
    | ok room => rfl
  | get item | drop item | putHere item | put item place | destroy item =>
    exact onState_eq State.moveInPlace_eq
  | swap a b => exact onState_eq State.swapInPlace_eq
  | _ => rw [act, onState_modify, apply]

/-- No effect writes anything before its last check. -/
theorem atomic_act (world : World) (command : Command) (e : Effect) :
    Atomic (e.act world command) := by
  intro before fault after h
  rw [act_eq, receive_eq_error_iff] at h
  exact h.1

end Effect

/-! ## Rules -/

/-- Effects that succeed one after the other, and the scene they leave. -/
inductive Acts (world : World) (command : Command) : List Effect → Scene → Scene → Prop
  | nil {scene} : Acts world command [] scene scene
  | cons {e rest scene between scene'} (he : e.act world command scene = .ok () between)
      (hrest : Acts world command rest between scene') : Acts world command (e :: rest) scene scene'

variable {world : World} {command : Command}

/-- Effects are performed to the end, or up to one that fails. -/
theorem Scene.perform_cases (es : List Effect) (scene : Scene) :
    (∃ scene', Acts world command es scene scene' ∧
      scene.perform world command es = (none, scene')) ∨
    ∃ before e after fault scene', es = before ++ e :: after ∧
      Acts world command before scene scene' ∧
      e.act world command scene' = .error fault scene' ∧
      scene.perform world command es = (some fault, scene') := by
  induction es generalizing scene with
  | nil => exact .inl ⟨scene, .nil, rfl⟩
  | cons e rest ih =>
    have hact := Effect.act_eq world command e scene
    rw [perform]
    cases happly : e.apply world command scene.state with
    | error fault =>
      rw [happly] at hact
      exact .inr ⟨[], e, rest, fault, scene, rfl, .nil, hact, rfl⟩
    | ok done =>
      rw [happly] at hact
      rcases ih _ with ⟨scene', hrest, hperform⟩ |
        ⟨before, e', after, fault, scene', rfl, hbefore, hfail, hperform⟩
      · exact .inl ⟨scene', .cons hact hrest, hperform⟩
      · exact .inr ⟨e :: before, e', after, fault, scene', rfl, .cons hact hbefore, hfail, hperform⟩

/-- An effect does all that it does or nothing, although it is carried out in
place and a failure takes nothing back.  It succeeds and fails as `Effect.apply`
tells.  Hence a rule whose conditions hold performs all its effects in order, or
there is a first one that fails, and then the scene is left exactly as those
before it left it. -/
theorem Rule.fails_at_first :
    (∀ world command e, Atomic (Effect.act world command e)) ∧
    (∀ world command e scene, Effect.act world command e scene =
      scene.receive (e.apply world command scene.state)) ∧
    ∀ (r : Rule) (v : Scope) (scene : Scene) (left : Draws),
      r.isSatisfied v scene.state scene.draws = (true, left) →
      (∃ scene', Acts v.world v.command r.effects { scene with draws := left } scene' ∧
        r.run v scene = (.ok true, scene')) ∨
      ∃ before e after fault scene', r.effects = before ++ e :: after ∧
        Acts v.world v.command before { scene with draws := left } scene' ∧
        e.act v.world v.command scene' = .error fault scene' ∧
        r.run v scene = (.error fault, scene') := by
  refine ⟨Effect.atomic_act, Effect.act_eq, fun r v scene left hsatisfied => ?_⟩
  rw [run, hsatisfied]
  rcases Scene.perform_cases r.effects { scene with draws := left } with
    ⟨scene', hacts, hperform⟩ | ⟨before, e, after, fault, scene', heq, hbefore, hfail, hperform⟩
  · refine .inl ⟨scene', hacts, ?_⟩
    simp only [hperform]
  · refine .inr ⟨before, e, after, fault, scene', heq, hbefore, hfail, ?_⟩
    simp only [hperform]

/-! ## A gallery -/

namespace Sample

def lantern : Item := ⟨"lamp", "A lamp.", true, [], .room "hall"⟩

def wreck : Item := ⟨"broken lamp", "A broken lamp.", true, [], .nowhere⟩

def statue : Item := ⟨"statue", "A statue.", false, [], .room "hall"⟩

/-- A hall with a lamp that can be carried and a statue that cannot. -/
def gallery : World where
  rooms := [⟨"hall", "A hall.", []⟩]
  items := [lantern, wreck, statue]
  rooms_nodup := by decide +kernel
  items_nodup := by decide +kernel
  carried_portable := by decide

/-- Who carries the lamp lights it, puts the statue in its place and leaves. -/
def exchange : Rule :=
  ⟨[.carrying "lamp"], [.setFlag "lit", .swap "lamp" "statue", .quit]⟩

end Sample

open Sample in
/-- The statue cannot be carried.  The lamp is lit by then, and the game goes on. -/
theorem Rule.fails_at_first_sample :
    let v : Scope := ⟨gallery, .empty⟩
    let scene : Scene :=
      ⟨(State.initial gallery "hall").setPlace "lamp" .inventory, [], .ofBytes []⟩
    exchange.isSatisfied v scene.state scene.draws = (true, scene.draws) ∧
    ∃ before e after scene', exchange.effects = before ++ e :: after ∧
      Acts gallery .empty before scene scene' ∧
      e.act gallery .empty scene' = .error (.notPortable "statue") scene' ∧
      exchange.run v scene = (.error (.notPortable "statue"), scene') ∧
      scene'.state.flag "lit" = true ∧ scene'.state.running = true := by
  intro v scene
  have hcarried : scene.state.isCarried "lamp" = true := by decide +kernel
  have hsatisfied : exchange.isSatisfied v scene.state scene.draws = (true, scene.draws) := by
    show Condition.allHold v scene.state [.carrying "lamp"] scene.draws = _
    simp only [Condition.allHold, Condition.holds, hcarried]
  have hfault : (exchange.run v scene).1 = .error (.notPortable "statue") := by rfl
  have hlit : (exchange.run v scene).2.state.flag "lit" = true := by decide +kernel
  have hrunning : (exchange.run v scene).2.state.running = true := by decide +kernel
  obtain ⟨-, -, hfirst⟩ := Rule.fails_at_first
  rcases hfirst exchange v scene scene.draws hsatisfied with
    ⟨scene', -, hrun⟩ | ⟨before, e, after, fault, scene', heq, hacts, hfail, hrun⟩
  · rw [hrun] at hfault
    exact absurd hfault nofun
  · rw [hrun] at hfault hlit hrunning
    cases hfault
    exact ⟨hsatisfied, before, e, after, scene', heq, hacts, hfail, hrun, hlit, hrunning⟩

end TextAdventure
