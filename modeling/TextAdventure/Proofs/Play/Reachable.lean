/-
The states that a game can come to.

What every effect of the rules keeps is kept by every turn, whether or not the
turn fails, and hence holds of every state that can be reached.
-/
import TextAdventure.Proofs.Play.Turn

namespace TextAdventure

variable {world : World} {s s' : State} {deeds : List (Command × Effect)}

/-! ## Effects in order -/

/-- What each of some effects keeps is kept by all of them together. -/
theorem enact_kept {P : State → Prop}
    (hkept : ∀ x ∈ deeds, ∀ s s', P s → Effect.Does world x.1 s x.2 s' → P s') (hs : P s) :
    P (enact world s deeds).state := by
  induction deeds generalizing s with
  | nil => exact hs
  | cons x rest ih =>
    obtain ⟨hx, hrest⟩ := List.forall_mem_cons.1 hkept
    rw [enact]
    cases hstep : x.2.apply world x.1 s with
    | error fault => exact hs
    | ok done => exact ih hrest (hx s done.1 hs (Effect.does_of_apply hstep))

/-- Where one of some effects fails, all that they keep still holds. -/
theorem exists_fails_of_enact {P : State → Prop}
    (hkept : ∀ x ∈ deeds, ∀ s s', P s → Effect.Does world x.1 s x.2 s' → P s') (hs : P s)
    {fault : Fault} (hfault : (enact world s deeds).fault = some fault) :
    ∃ x ∈ deeds, ∃ s', P s' ∧ Effect.Fails world x.1 s' x.2 fault := by
  induction deeds generalizing s with
  | nil => exact absurd hfault nofun
  | cons x rest ih =>
    obtain ⟨hx, hrest⟩ := List.forall_mem_cons.1 hkept
    rw [enact] at hfault
    cases hstep : x.2.apply world x.1 s with
    | error fault' =>
      rw [hstep] at hfault
      obtain rfl : fault' = fault := Option.some.inj hfault
      exact ⟨x, List.mem_cons_self, s, hs, Effect.fails_of_apply hstep⟩
    | ok done =>
      rw [hstep] at hfault
      obtain ⟨y, hy, s', hs', hfails⟩ :=
        ih hrest (hx s done.1 hs (Effect.does_of_apply hstep)) hfault
      exact ⟨y, List.mem_cons_of_mem _ hy, s', hs', hfails⟩

/-! ## Rules that are tried -/

theorem Tried.mem_of_fired {v : Scope} {rules fired : List Rule} {draws left : Draws}
    {fault : Option Fault} (h : Tried v rules s draws fired fault s' left) {r : Rule}
    (hr : r ∈ fired) : r ∈ rules := by
  induction h with
  | done => exact absurd hr List.not_mem_nil
  | miss hmiss hrest ih => exact List.mem_cons_of_mem _ (ih hr)
  | fire hfire hdone hrest ih =>
    rcases List.mem_cons.1 hr with rfl | hr
    · exact List.mem_cons_self
    · exact List.mem_cons_of_mem _ (ih hr)
  | fail hfire hfault =>
    rw [List.mem_singleton.1 hr]
    exact List.mem_cons_self

/-- The fault and the state that are left are those of the rules that fire. -/
theorem Tried.enact_fired {v : Scope} {rules fired : List Rule} {draws left : Draws}
    {fault : Option Fault} (h : Tried v rules s draws fired fault s' left) :
    (enact v.world s (deedsOf v.command fired)).fault = fault ∧
      (enact v.world s (deedsOf v.command fired)).state = s' := by
  induction h with
  | done => exact ⟨rfl, rfl⟩
  | miss hmiss hrest ih => exact ih
  | fire hfire hdone hrest ih =>
    rw [enact_deedsOf_cons hdone]
    exact ih
  | fail hfire hfault =>
    rw [enact_deedsOf_singleton]
    exact ⟨hfault, rfl⟩

namespace Adventure

/-- All the rules of an adventure. -/
def rules (a : Adventure) : List Rule := a.occurs ++ a.actions

theorem mem_rules_of_split {a : Adventure} {before after : List Rule} {r : Rule}
    (h : a.actions = before ++ r :: after) : r ∈ a.rules := by
  have hmem : r ∈ a.actions := by
    rw [h]
    exact List.mem_append_right _ List.mem_cons_self
  exact List.mem_append_right a.occurs hmem

theorem mem_deedsOf {command : Command} {fired : List Rule} {x : Command × Effect}
    (h : x ∈ deedsOf command fired) : ∃ r ∈ fired, x.2 ∈ r.effects := by
  obtain ⟨r, hr, hx⟩ := List.mem_flatMap.1 h
  obtain ⟨e, he, rfl⟩ := List.mem_map.1 hx
  exact ⟨r, hr, he⟩

end Adventure

/-- All the effects of a turn are effects of rules. -/
theorem Course.exists_rule {a : Adventure} {command : Command} {draws left : Draws}
    {result : Except Fault Outcome} (h : Course a command s draws deeds result left)
    {x : Command × Effect} (hx : x ∈ deeds) : ∃ r ∈ a.rules, x.2 ∈ r.effects := by
  have hoccurs : ∀ {fired : List Rule} {fault : Option Fault} {s' : State} {left : Draws},
      Tried ⟨a.world, .empty⟩ a.occurs s draws fired fault s' left → x ∈ deedsOf .empty fired →
        ∃ r ∈ a.rules, x.2 ∈ r.effects := by
    intro fired fault s' left htried hx
    obtain ⟨r, hr, he⟩ := Adventure.mem_deedsOf hx
    exact ⟨r, List.mem_append_left _ (htried.mem_of_fired hr), he⟩
  cases h with
  | cut htried => exact hoccurs htried hx
  | stopped htried hstopped => exact hoccurs htried hx
  | unanswered htried hrunning hmissed => exact hoccurs htried hx
  | answered htried hrunning hsplit hmissed hr =>
    rcases List.mem_append.1 hx with hx | hx
    · exact hoccurs htried hx
    · obtain ⟨e, he, rfl⟩ := List.mem_map.1 hx
      exact ⟨_, Adventure.mem_rules_of_split hsplit, he⟩

/-- A turn that fails does so because one of its effects fails. -/
theorem Course.enact_fault {a : Adventure} {command : Command} {draws left : Draws}
    {fault : Fault} (h : Course a command s draws deeds (.error fault) left) :
    (enact a.world s deeds).fault = some fault := by
  generalize hresult : (Except.error fault : Except Fault Outcome) = result at h
  cases h with
  | cut htried =>
    rw [Except.error.inj hresult]
    exact htried.enact_fired.1
  | stopped htried hstopped => exact absurd hresult nofun
  | unanswered htried hrunning hmissed => exact absurd hresult nofun
  | answered htried hrunning hsplit hmissed hr =>
    obtain ⟨hdone, rfl⟩ := htried.enact_fired
    rw [enact_append hdone]
    exact Enacted.fault_of_answer hresult.symm

/-! ## Reachable states -/

namespace Adventure

/-- The states of a game: the one it starts in, and those after a turn, whatever
is entered and drawn and whether or not the turn fails. -/
inductive Reachable (a : Adventure) : State → Prop
  | start : Reachable a a.initialState
  | turn {s : State} (h : Reachable a s) (command : Command) (shown : List Shown) (draws : Draws) :
      Reachable a (a.takeTurn command ⟨s, shown, draws⟩).2.state

/-- Whether the beginning of a turn and every effect of a rule keep `P`. -/
structure Keeps (a : Adventure) (P : State → Prop) : Prop where
  begins : ∀ s, P s → P s.beginTurn
  does : ∀ r ∈ a.rules, ∀ e ∈ r.effects, ∀ command s s',
    P s → Effect.Does a.world command s e s' → P s'

variable {a : Adventure} {P : State → Prop} {command : Command} {scene : Scene}

theorem Keeps.course (hkeeps : a.Keeps P) {draws left : Draws} {result : Except Fault Outcome}
    (h : Course a command s draws deeds result left) :
    ∀ x ∈ deeds, ∀ s s', P s → Effect.Does a.world x.1 s x.2 s' → P s' := by
  intro x hx
  obtain ⟨r, hr, he⟩ := h.exists_rule hx
  exact hkeeps.does r hr x.2 he x.1

/-- A turn keeps what its effects keep, even if it fails. -/
theorem Keeps.takeTurn (hkeeps : a.Keeps P) (command : Command) (hs : P scene.state) :
    P (a.takeTurn command scene).2.state := by
  cases hrunning : scene.state.running with
  | false =>
    rw [takeTurn_of_ended hrunning]
    exact hs
  | true =>
    obtain ⟨deeds, result, left, hcourse, heq⟩ := exists_course a command hrunning
    rw [heq]
    exact enact_kept (hkeeps.course hcourse) (hkeeps.begins _ hs)

theorem Keeps.reachable (hkeeps : a.Keeps P) (hstart : P a.initialState) {s : State}
    (h : a.Reachable s) : P s := by
  induction h with
  | start => exact hstart
  | turn h command shown draws ih => exact hkeeps.takeTurn command ih

/-- A turn fails because the game has ended or because an effect of a rule
fails, at a state in which all that the effects keep still holds. -/
theorem Keeps.fails (hkeeps : a.Keeps P) (hs : P scene.state) {fault : Fault}
    (h : (a.takeTurn command scene).1 = .error fault) :
    fault = .gameOver ∨ ∃ r ∈ a.rules, ∃ e ∈ r.effects, ∃ command s,
      P s ∧ Effect.Fails a.world command s e fault := by
  cases hrunning : scene.state.running with
  | false =>
    rw [takeTurn_of_ended hrunning] at h
    exact .inl (Except.error.inj h).symm
  | true =>
    obtain ⟨deeds, result, left, hcourse, heq⟩ := exists_course a command hrunning
    rw [heq] at h
    obtain rfl : result = .error fault := h
    obtain ⟨x, hx, s', hs', hfails⟩ :=
      exists_fails_of_enact (hkeeps.course hcourse) (hkeeps.begins _ hs) hcourse.enact_fault
    obtain ⟨r, hr, he⟩ := hcourse.exists_rule hx
    exact .inr ⟨r, hr, x.2, he, x.1, s', hs', hfails⟩

end Adventure
end TextAdventure
