/-
Scripts whose rules are guarded.

The words of a script are of a family in which a name has one set of spellings,
so the exit that a rule asks for is the one it leaves by, even if the two are
spelled differently.
-/
import TextAdventure.Proofs.Play.Guarded
import TextAdventure.Proofs.Script.WellNamed

namespace TextAdventure
namespace Script

theorem Step.within_of_check {names : Names} {lexicon : Vocabulary} {step : Step} {e : Effect}
    (h : step.check names lexicon = .valid e) : ∀ c ∈ e.guard?, c.Within (Minted lexicon) := by
  cases step with
  | go direction =>
    obtain rfl := Checked.valid.inj h
    intro c hc
    obtain rfl := Option.some.inj hc
    exact List.forall_mem_singleton.2 ⟨direction, rfl⟩
  | goWord position =>
    obtain ⟨p, -, rfl⟩ := Checked.map_eq_valid.1 h
    intro c hc
    obtain rfl := Option.some.inj hc
    exact List.forall_mem_nil _
  | goto _ | get _ | drop _ | putHere _ | destroy _ =>
    obtain ⟨_, -, rfl⟩ := Checked.map_eq_valid.1 h
    exact nofun
  | put _ _ | swap _ _ =>
    obtain ⟨_, _, -, -, rfl⟩ := Checked.map₂_eq_valid.1 h
    exact nofun
  | _ =>
    obtain rfl := Checked.valid.inj h
    exact nofun

theorem MadeOf.within {tree : Tree} {a : Adventure} {world rules : List (Option Part)}
    (made : MadeOf tree a world rules) : ∀ r ∈ a.rules, r.Within (Minted tree.lexicon) := by
  intro r hr
  obtain ⟨body, r₀, hwithin, heffects, hbody⟩ := made.exists_body hr
  constructor
  · exact RuleBody.within_of_check hbody hwithin
  · intro e he
    obtain ⟨step, hstep⟩ := RuleBody.exists_step_of_mem hbody heffects he
    exact Step.within_of_check hstep

/-- In a game of a script whose rules ask for the exits by which they leave and
carry only what can be carried, no turn fails before the game has ended. -/
theorem Tree.guarded_never_fails {tree : Tree} {a : Adventure} (h : tree.compile = .ok a)
    (hguarded : a.Guarded) {s : State} (hs : a.Reachable s) (command : Command)
    (shown : List Shown) (draws : Draws) :
    (s.running = true ∧ ∃ outcome, (a.takeTurn command ⟨s, shown, draws⟩).1 = .ok outcome) ∨
      (s.running = false ∧ (a.takeTurn command ⟨s, shown, draws⟩).1 = .error .gameOver) := by
  obtain ⟨world, rules, made⟩ := exists_madeOf h
  have ha : a.Unfailing (Minted tree.lexicon) :=
    ⟨made.wellNamed, hguarded, kindred_minted tree.lexicon, made.within⟩
  have hplaced : (Scene.mk s shown draws).state.WellPlaced a.world :=
    made.wellNamed.wellPlaced_of_reachable hs
  exact ha.takeTurn command hplaced

theorem Tree.guarded_never_fails_sample : ∃ a, Sample.tree.compile = .ok a ∧ a.Guarded ∧
    ∀ command shown draws,
      (a.initialState.running = true ∧
        ∃ outcome, (a.takeTurn command ⟨a.initialState, shown, draws⟩).1 = .ok outcome) ∨
      (a.initialState.running = false ∧
        (a.takeTurn command ⟨a.initialState, shown, draws⟩).1 = .error .gameOver) := by
  obtain ⟨a, ha, hguarded⟩ : ∃ a, Sample.tree.compile = .ok a ∧ decide a.Guarded = true :=
    Tree.exists_of_compilesTo (by decide +kernel)
  have hguarded := of_decide_eq_true hguarded
  exact ⟨a, ha, hguarded, Tree.guarded_never_fails ha hguarded .start⟩

end Script
end TextAdventure
