/-
The rules of an adventure that compiles render those of its script.

A rendered rule is satisfied when the written one holds, at every state and for
every command, and takes the same draws to find that out.  It performs the steps
of the last clause, since each clause starts the effects over.  Repeated
conditions are the only thing that is lost on the way, and they do not count.
-/
import TextAdventure.Proofs.Script.Bodies
import TextAdventure.Proofs.Script.Compiled
import TextAdventure.Proofs.Script.Guards

namespace TextAdventure

theorem Effect.unseen_eq_map (r : Except Fault State) :
    Effect.unseen r = r.map fun s => (s, []) := by
  cases r <;> rfl

namespace Script

open Condition

variable {tree : Tree}

/-! ## Steps -/

theorem Place.location_of_check {place : Place} {l : Location}
    (h : place.check (Names.ofTree tree) = .valid l) : place.location tree.sense = l := by
  cases place with
  | room name =>
    obtain ⟨n, hn, rfl⟩ := Checked.map_eq_valid.1 h
    rw [location, Names.sense_of_roomRef hn]
  | nowhere => exact Checked.valid.inj h
  | inventory => exact Checked.valid.inj h

/-- What is made of a step does what the step does. -/
theorem Step.apply_of_check {step : Step} {e : Effect}
    (h : step.check (Names.ofTree tree) tree.lexicon = .valid e) (world : World)
    (command : Command) (s : State) :
    e.apply world command s = step.apply tree.sense world command s := by
  cases step with
  | look =>
    rw [← Checked.valid.inj h, Effect.apply, Step.apply]
    cases world.requireRoom s.room <;> rfl
  | goWord position =>
    obtain ⟨p, hp, rfl⟩ := Checked.map_eq_valid.1 h
    rw [Effect.apply, Step.apply, amount_of_checkPosition hp, Effect.unseen_eq_map]
  | go direction =>
    rw [← Checked.valid.inj h, Effect.apply, Step.apply, Effect.unseen_eq_map]
    rfl
  | goto room =>
    obtain ⟨n, hn, rfl⟩ := Checked.map_eq_valid.1 h
    rw [Effect.apply, Step.apply, Names.sense_of_roomRef hn]
    cases world.requireRoom n <;> rfl
  | get item | drop item | putHere item | destroy item =>
    obtain ⟨n, hn, rfl⟩ := Checked.map_eq_valid.1 h
    rw [Effect.apply, Step.apply, Names.sense_of_itemRef hn, Effect.unseen_eq_map]
  | put item place =>
    obtain ⟨n, l, hn, hl, rfl⟩ := Checked.map₂_eq_valid.1 h
    rw [Effect.apply, Step.apply, Names.sense_of_itemRef hn, Place.location_of_check hl,
      Effect.unseen_eq_map]
  | swap a b =>
    obtain ⟨m, n, hm, hn, rfl⟩ := Checked.map₂_eq_valid.1 h
    rw [Effect.apply, Step.apply, Names.sense_of_itemRef hm, Names.sense_of_itemRef hn,
      Effect.unseen_eq_map]
  | _ => rw [← Checked.valid.inj h]; rfl

/-- An effect that does what a step does, wherever both are performed. -/
def DoesAs (sense : Sense) (step : Step) (e : Effect) : Prop :=
  ∀ world command s, e.apply world command s = step.apply sense world command s

theorem perform_eq_performSteps {sense : Sense} {v : Scope} {steps : List Step}
    {es : List Effect} (h : List.Forall₂ (DoesAs sense) steps es) (scene : Scene) :
    scene.perform v.world v.command es = performSteps sense v scene steps := by
  induction h generalizing scene with
  | nil => rfl
  | cons hstep _ ih =>
    rw [Scene.perform, performSteps, hstep v.world v.command scene.state]
    cases Step.apply sense v.world v.command scene.state _ with
    | error fault => rfl
    | ok done => exact ih _

/-! ## Rules -/

/-- A rule that renders a written one, of which it is given when that one holds
and which steps it comes to. -/
structure Renders (sense : Sense) (holds : Scope → State → Draws → Bool × Draws)
    (steps : List Step) (rule : Rule) : Prop where
  satisfied : ∀ v s draws, rule.isSatisfied v s draws = holds v s draws
  performs : List.Forall₂ (DoesAs sense) steps rule.effects
  runs : ∀ v scene, rule.run v scene = follow sense v scene steps (holds v scene.state scene.draws)

theorem Renders.of_satisfied {sense : Sense} {holds : Scope → State → Draws → Bool × Draws}
    {steps : List Step} {rule : Rule}
    (hsatisfied : ∀ v s draws, rule.isSatisfied v s draws = holds v s draws)
    (hperforms : List.Forall₂ (DoesAs sense) steps rule.effects) :
    Renders sense holds steps rule := by
  refine ⟨hsatisfied, hperforms, fun v scene => ?_⟩
  rw [Rule.run, hsatisfied]
  obtain ⟨held, left⟩ := holds v scene.state scene.draws
  cases held with
  | false => rfl
  | true =>
    simp only [perform_eq_performSteps hperforms]
    rfl

namespace RuleBody

/-- Whether every clause has a step, as every clause that can be read has. -/
def Full (body : RuleBody) : Prop := ∀ clause ∈ body.clauses, clause ≠ []

instance (body : RuleBody) : Decidable body.Full :=
  inferInstanceAs (Decidable (∀ clause ∈ body.clauses, clause ≠ []))

/-- The effects of a rule that starts without any are those of the last clause. -/
theorem performs_of_check {r rule : Rule} {body : RuleBody} (hr : r.effects = [])
    (hfull : body.Full) (h : body.check (Names.ofTree tree) tree.lexicon r = .valid rule) :
    List.Forall₂ (DoesAs tree.sense) body.steps rule.effects := by
  obtain ⟨conditions, clauses, -, hclauses, rfl⟩ := check_eq_valid h
  have hne : ∀ es ∈ clauses, es ≠ [] := by
    rintro es hes rfl
    obtain ⟨clause, hclause, hmade⟩ := exists_left_of_forall₂ hclauses hes
    exact hfull clause hclause (List.forall₂_nil_right_iff.1 hmade)
  rw [foldl_withClause_effects hne, Rule.foldl_when_effects, hr, steps, List.forall₂_map_left_iff]
  exact (getLast?_getD_of_forall₂ hclauses .nil).imp fun _ _ hstep => Step.apply_of_check hstep

/-- A rule is satisfied when the conditions it starts with hold and after them
the written ones. -/
theorem isSatisfied_of_check {r rule : Rule} {body : RuleBody}
    (hr : ∀ c ∈ r.conditions, c.Within (Minted tree.lexicon))
    (h : body.check (Names.ofTree tree) tree.lexicon r = .valid rule) (v : Scope) (s : State)
    (draws : Draws) :
    rule.isSatisfied v s draws =
      match r.isSatisfied v s draws with
      | (true, draws) => body.holds tree.sense v s draws
      | (false, draws) => (false, draws) := by
  obtain ⟨conditions, clauses, hconditions, -, rfl⟩ := check_eq_valid h
  have hwithin : ∀ c ∈ conditions, c.Within (Minted tree.lexicon) := fun c hc =>
    within_of_mem hc (Guard.within_of_checkAll hconditions)
  rw [Rule.isSatisfied, foldl_withClause_conditions,
    Rule.allHold_foldl_when (kindred_minted tree.lexicon) hr hwithin, allHold_append,
    Rule.isSatisfied]
  obtain ⟨held, left⟩ := allHold v s r.conditions draws
  cases held with
  | false => rfl
  | true => exact Guard.allHold_of_checkAll hconditions left

theorem renders_of_check {rule : Rule} {body : RuleBody} (hfull : body.Full)
    (h : body.check (Names.ofTree tree) tree.lexicon .empty = .valid rule) :
    Renders tree.sense (fun v s => body.holds tree.sense v s) body.steps rule :=
  .of_satisfied (isSatisfied_of_check (List.forall_mem_nil _) h)
    (performs_of_check rfl hfull h)

end RuleBody

namespace ActionDecl

theorem holds_nounCondition (decl : ActionDecl) (v : Scope) (s : State) (draws : Draws) :
    (decl.nounCondition tree.lexicon).holds v s draws =
      (decl.takesNoun tree.sense (v.command.word 2), draws) := by
  unfold nounCondition takesNoun
  cases decl.noun with
  | some noun => exact Pattern.holds_condition 2 noun.node draws
  | none => rw [Condition.holds, Word.fits_none]

theorem isSatisfied_pattern (decl : ActionDecl) (v : Scope) (s : State) (draws : Draws) :
    (decl.pattern tree.lexicon).isSatisfied v s draws =
      (decl.answers tree.sense v.command, draws) := by
  rw [pattern_eq, Rule.isSatisfied,
    Rule.allHold_foldl_when (kindred_minted tree.lexicon) (List.forall_mem_nil _)
      (decl.within_conditions tree.lexicon)]
  show allHold v s [_, _] draws = _
  rw [allHold, Pattern.holds_condition, answers]
  cases decl.verb.node.takes tree.sense (v.command.word 1) with
  | false => rfl
  | true =>
    rw [Bool.true_and]
    show allHold v s [_] draws = _
    rw [allHold, holds_nounCondition]
    cases decl.takesNoun tree.sense (v.command.word 2) <;> rfl

theorem renders_of_check {rule : Rule} {decl : ActionDecl} (hfull : decl.body.Full)
    (h : decl.check (Names.ofTree tree) tree.lexicon = .valid rule) :
    Renders tree.sense (fun v s => decl.holds tree.sense v s) decl.body.steps rule := by
  have hperforms := RuleBody.performs_of_check (decl.pattern_effects tree.lexicon) hfull h
  refine .of_satisfied (fun v s draws => ?_) hperforms
  rw [RuleBody.isSatisfied_of_check (decl.within_pattern _) h, isSatisfied_pattern, holds]
  cases decl.answers tree.sense v.command with
  | true => rfl
  | false => rfl

end ActionDecl

/-! ## Scripts -/

namespace Tree

/-- Whether no clause of a rule is without a step. -/
def Full (tree : Tree) : Prop :=
  (∀ decl ∈ tree.actions, decl.body.Full) ∧ ∀ body ∈ tree.occurs, body.Full

instance (tree : Tree) : Decidable tree.Full :=
  inferInstanceAs (Decidable (_ ∧ _))

/-- The rules of an adventure that compiles are those of its script, one for
each and in the same order, and each of them renders its own. -/
theorem rules_render_script {tree : Tree} {a : Adventure} (h : tree.compile = .ok a)
    (hfull : tree.Full) :
    List.Forall₂
      (fun decl rule =>
        Renders tree.sense (fun v s => decl.holds tree.sense v s) decl.body.steps rule)
      tree.actions a.actions ∧
    List.Forall₂
      (fun body rule =>
        Renders tree.sense (fun v s => body.holds tree.sense v s) body.steps rule)
      tree.occurs a.occurs := by
  obtain ⟨world, rules, made⟩ := exists_madeOf h
  obtain ⟨hactions, hoccurs⟩ := hfull
  constructor
  · have hboth := (List.forall₂_and_left _ _).2 ⟨hactions, made.actions_checked⟩
    exact hboth.imp fun decl rule hdecl => ActionDecl.renders_of_check hdecl.1 hdecl.2
  · have hboth := (List.forall₂_and_left _ _).2 ⟨hoccurs, made.occurs_checked⟩
    exact hboth.imp fun body rule hbody => RuleBody.renders_of_check hbody.1 hbody.2

theorem rules_render_script_sample : Sample.tree.Full ∧ ∃ a, Sample.tree.compile = .ok a ∧
    List.Forall₂
      (fun decl rule =>
        Renders Sample.tree.sense (fun v s => decl.holds Sample.tree.sense v s) decl.body.steps
          rule)
      Sample.tree.actions a.actions ∧
    List.Forall₂
      (fun body rule =>
        Renders Sample.tree.sense (fun v s => body.holds Sample.tree.sense v s) body.steps rule)
      Sample.tree.occurs a.occurs := by
  have hfull : Sample.tree.Full := by decide
  obtain ⟨a, ha, -⟩ : ∃ a, Sample.tree.compile = .ok a ∧ true = true :=
    exists_of_compilesTo (by decide +kernel)
  exact ⟨hfull, a, ha, rules_render_script ha hfull⟩

end Tree

end Script
end TextAdventure
