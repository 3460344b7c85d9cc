/-
Rules as a script writes them: which conditions and which effects are made of
their bodies.
-/
import TextAdventure.Proofs.Rules
import TextAdventure.Proofs.Script.Guards

namespace TextAdventure

theorem Rule.foldl_append_conditions (es : List Effect) (r : Rule) :
    (es.foldl append r).conditions = r.conditions := by
  induction es generalizing r with
  | nil => rfl
  | cons e rest ih => rw [List.foldl_cons, ih]; rfl

theorem Rule.foldl_append_effects (es : List Effect) (r : Rule) :
    (es.foldl append r).effects = r.effects ++ es := by
  induction es generalizing r with
  | nil => rw [List.foldl_nil, List.append_nil]
  | cons e rest ih =>
    rw [List.foldl_cons, ih]
    show (r.effects ++ [e]) ++ rest = r.effects ++ e :: rest
    rw [List.append_assoc, List.singleton_append]

namespace Script

/-! ## Clauses -/

theorem withClause_conditions (r : Rule) (es : List Effect) :
    (withClause r es).conditions = r.conditions := by
  cases es with
  | nil => rfl
  | cons e rest => rw [withClause, Rule.foldl_append_conditions]; rfl

theorem mem_withClause {r : Rule} {es : List Effect} {e : Effect}
    (h : e ∈ (withClause r es).effects) : e ∈ r.effects ∨ e ∈ es := by
  cases es with
  | nil => exact .inl h
  | cons first rest =>
    rw [withClause, Rule.foldl_append_effects] at h
    exact .inr h

theorem mem_foldl_withClause {r : Rule} {clauses : List (List Effect)} {e : Effect}
    (h : e ∈ (clauses.foldl withClause r).effects) : e ∈ r.effects ∨ ∃ es ∈ clauses, e ∈ es := by
  induction clauses generalizing r with
  | nil => exact .inl h
  | cons es rest ih =>
    rcases ih h with h | ⟨es', hes', he⟩
    · exact (mem_withClause h).imp id fun he => ⟨es, List.mem_cons_self, he⟩
    · exact .inr ⟨es', List.mem_cons_of_mem _ hes', he⟩

theorem withClause_effects (r : Rule) {es : List Effect} (h : es ≠ []) :
    (withClause r es).effects = es := by
  cases es with
  | nil => exact absurd rfl h
  | cons e rest => rw [withClause, Rule.foldl_append_effects]; rfl

theorem foldl_withClause_conditions (clauses : List (List Effect)) (r : Rule) :
    (clauses.foldl withClause r).conditions = r.conditions := by
  induction clauses generalizing r with
  | nil => rfl
  | cons es rest ih => rw [List.foldl_cons, ih, withClause_conditions]

/-- Of several clauses the last one counts. -/
theorem foldl_withClause_effects {clauses : List (List Effect)} (h : ∀ es ∈ clauses, es ≠ [])
    (r : Rule) : (clauses.foldl withClause r).effects = clauses.getLast?.getD r.effects := by
  induction clauses generalizing r with
  | nil => rfl
  | cons es rest ih =>
    obtain ⟨hes, hrest⟩ := List.forall_mem_cons.1 h
    rw [List.foldl_cons, ih hrest, withClause_effects r hes, List.getLast?_cons]
    cases rest.getLast? <;> rfl

/-! ## Bodies -/

namespace RuleBody

theorem check_eq_valid {names : Names} {lexicon : Vocabulary} {r rule : Rule} {body : RuleBody}
    (h : body.check names lexicon r = .valid rule) :
    ∃ conditions clauses, Guard.checkAll names lexicon body.guards = .valid conditions ∧
      List.Forall₂ (List.Forall₂ fun step e => step.node.check names lexicon = .valid e)
        body.clauses clauses ∧
      rule = clauses.foldl withClause (conditions.foldl Rule.when r) := by
  obtain ⟨conditions, clauses, hconditions, hclauses, rfl⟩ := Checked.map₂_eq_valid.1 h
  refine ⟨conditions, clauses, hconditions, ?_, rfl⟩
  exact (Checked.all_map_eq_valid.1 hclauses).imp fun _ _ hclause =>
    Checked.all_map_eq_valid.1 hclause

/-- The conditions of a rule are over the words of the script. -/
theorem within_of_check {names : Names} {lexicon : Vocabulary} {r rule : Rule} {body : RuleBody}
    (h : body.check names lexicon r = .valid rule)
    (hr : ∀ c ∈ r.conditions, c.Within (Minted lexicon)) :
    ∀ c ∈ rule.conditions, c.Within (Minted lexicon) := by
  obtain ⟨conditions, clauses, hconditions, -, rfl⟩ := check_eq_valid h
  intro c hc
  rw [foldl_withClause_conditions] at hc
  rcases Rule.mem_foldl_when hc with hc | hc
  · exact hr c hc
  · exact Condition.within_of_mem hc (Guard.within_of_checkAll hconditions)

/-- The effects of a rule are made of the steps of its body. -/
theorem exists_step_of_mem {names : Names} {lexicon : Vocabulary} {r rule : Rule} {body : RuleBody}
    (h : body.check names lexicon r = .valid rule) (hr : r.effects = []) {e : Effect}
    (he : e ∈ rule.effects) : ∃ step : Step, step.check names lexicon = .valid e := by
  obtain ⟨conditions, clauses, -, hclauses, rfl⟩ := check_eq_valid h
  rcases mem_foldl_withClause he with he | ⟨es, hes, he⟩
  · rw [Rule.foldl_when_effects, hr] at he
    exact absurd he List.not_mem_nil
  · obtain ⟨clause, -, hclause⟩ := exists_left_of_forall₂ hclauses hes
    obtain ⟨step, -, hstep⟩ := exists_left_of_forall₂ hclause he
    exact ⟨step.node, hstep⟩

end RuleBody

/-! ## Actions -/

namespace ActionDecl

/-- The condition on the second word, which asks for none if there is no noun. -/
def nounCondition (lexicon : Vocabulary) (decl : ActionDecl) : Condition :=
  match decl.noun with
  | some noun => noun.node.condition lexicon 2
  | none => .word 2 .none

theorem pattern_eq (lexicon : Vocabulary) (decl : ActionDecl) :
    decl.pattern lexicon =
      [decl.verb.node.condition lexicon 1, decl.nounCondition lexicon].foldl Rule.when .empty := rfl

theorem within_conditions (lexicon : Vocabulary) (decl : ActionDecl) :
    ∀ c ∈ [decl.verb.node.condition lexicon 1, decl.nounCondition lexicon],
      c.Within (Minted lexicon) := by
  refine List.forall_mem_cons.2 ⟨Pattern.within_condition lexicon 1 _, ?_⟩
  refine List.forall_mem_singleton.2 ?_
  unfold nounCondition
  cases decl.noun with
  | some noun => exact Pattern.within_condition lexicon 2 noun.node
  | none =>
    intro w hw
    rw [List.mem_singleton.1 hw]
    trivial

theorem within_pattern (lexicon : Vocabulary) (decl : ActionDecl) :
    ∀ c ∈ (decl.pattern lexicon).conditions, c.Within (Minted lexicon) := by
  intro c hc
  rw [pattern_eq] at hc
  rcases Rule.mem_foldl_when hc with hc | hc
  · exact absurd hc List.not_mem_nil
  · exact decl.within_conditions lexicon c hc

theorem pattern_effects (lexicon : Vocabulary) (decl : ActionDecl) :
    (decl.pattern lexicon).effects = [] := by
  rw [pattern_eq, Rule.foldl_when_effects]
  rfl

end ActionDecl

end Script
end TextAdventure
