/-
Conditions in parentheses, and conditions side by side.

A rule asks for the conditions of its script one after the other, and so it does
for those that stand in parentheses with `and` between them.  The rule keeps the
group as one condition, so that one which is repeated outside of it is not left
out; but what is left out of a rule would have held, and takes no draw.
-/
import TextAdventure.Proofs.Connectives
import TextAdventure.Proofs.Script.Bodies
import TextAdventure.Proofs.Script.Reports
import TextAdventure.Proofs.Syntax.Phrase

namespace TextAdventure
namespace Script

open Condition

/-- Whether two checks of a rule come to the same: the same is wrong, or they find
rules that do the same and ask for the same. -/
structure SameRule (c c' : Checked Rule) : Prop where
  diagnostics : c.diagnostics = c'.diagnostics
  effects : ∀ r r', c = .valid r → c' = .valid r' → r.effects = r'.effects
  satisfied : ∀ r r', c = .valid r → c' = .valid r' →
    ∀ v s draws, r.isSatisfied v s draws = r'.isSatisfied v s draws

theorem SameRule.refl (c : Checked Rule) : SameRule c c where
  diagnostics := rfl
  effects r r' h h' := by rw [Checked.valid.inj (h.symm.trans h')]
  satisfied r r' h h' v s draws := by rw [Checked.valid.inj (h.symm.trans h')]

/-! ## Checks of groups -/

variable {names : Names} {lexicon : Vocabulary}

namespace Guard

theorem premisesOf_append (gs hs : List Guard) :
    premisesOf (gs ++ hs) = premisesOf gs ++ premisesOf hs := by
  rw [premisesOf_eq_flatMap, premisesOf_eq_flatMap, premisesOf_eq_flatMap, List.flatMap_append]

theorem premisesOf_group (before parts after : List Guard) (span : Span) :
    premisesOf (before ++ .and parts span :: after) =
      premisesOf (before ++ parts ++ after) := by
  rw [premisesOf_append, premisesOf, premises, premisesOf_append, premisesOf_append,
    List.append_assoc]

theorem checkAll_append_eq_valid {gs hs : List Guard} {cs : List Condition} :
    checkAll names lexicon (gs ++ hs) = .valid cs ↔ ∃ first others,
      checkAll names lexicon gs = .valid first ∧ checkAll names lexicon hs = .valid others ∧
      cs = first ++ others := by
  induction gs generalizing cs with
  | nil =>
    rw [List.nil_append]
    constructor
    · exact fun h => ⟨[], cs, rfl, h, rfl⟩
    · rintro ⟨first, others, hfirst, h, rfl⟩
      rw [← Checked.valid.inj hfirst]
      exact h
  | cons g rest ih =>
    rw [List.cons_append, checkAll, checkAll, Checked.map₂_eq_valid]
    constructor
    · rintro ⟨c, cs', hc, hcs, rfl⟩
      obtain ⟨first, others, hfirst, hothers, rfl⟩ := ih.1 hcs
      exact ⟨c :: first, others, by rw [hc, hfirst]; rfl, hothers, rfl⟩
    · rintro ⟨first, others, hfirst, hothers, rfl⟩
      obtain ⟨c, cs', hc, hcs, rfl⟩ := Checked.map₂_eq_valid.1 hfirst
      exact ⟨c, cs' ++ others, hc, ih.2 ⟨cs', others, hcs, hothers, rfl⟩, rfl⟩

/-- A group is one condition, of those that its parts are alone. -/
theorem checkAll_group {before parts after : List Guard} {span : Span} {cs ds : List Condition}
    (hgrouped : checkAll names lexicon (before ++ .and parts span :: after) = .valid cs)
    (hlisted : checkAll names lexicon (before ++ parts ++ after) = .valid ds) :
    ∃ first inner last, cs = first ++ .all inner :: last ∧ ds = first ++ inner ++ last := by
  obtain ⟨both, last, hboth, hlast, rfl⟩ := checkAll_append_eq_valid.1 hlisted
  obtain ⟨first, inner, hfirst, hinner, rfl⟩ := checkAll_append_eq_valid.1 hboth
  refine ⟨first, inner, last, ?_, rfl⟩
  obtain ⟨first', others, hfirst', hothers, rfl⟩ := checkAll_append_eq_valid.1 hgrouped
  rw [checkAll, check, hinner, hlast] at hothers
  rw [← Checked.valid.inj (hfirst.symm.trans hfirst'), ← Checked.valid.inj hothers]

end Guard

/-! ## Rules of groups -/

theorem foldl_withClause_effects_congr {r r' : Rule} (h : r.effects = r'.effects)
    (clauses : List (List Effect)) :
    (clauses.foldl withClause r).effects = (clauses.foldl withClause r').effects := by
  induction clauses generalizing r r' with
  | nil => exact h
  | cons es rest ih =>
    refine ih ?_
    cases es with
    | nil => exact h
    | cons e others => rw [withClause_effects r (by simp), withClause_effects r' (by simp)]

theorem RuleBody.sameRule_group {r : Rule} (hr : ∀ c ∈ r.conditions, c.Within (Minted lexicon))
    (before parts after : List Guard) (span : Span) (clauses : List (List (Spanned Step))) :
    SameRule ((RuleBody.mk (before ++ .and parts span :: after) clauses).check names lexicon r)
      ((RuleBody.mk (before ++ parts ++ after) clauses).check names lexicon r) where
  diagnostics := by
    rw [check_diagnostics, check_diagnostics, premises, premises, Guard.premisesOf_group]
  effects rule rule' h h' := by
    obtain ⟨cs, fx, -, hfx, rfl⟩ := Checked.map₂_eq_valid.1 h
    obtain ⟨ds, fx', -, hfx', rfl⟩ := Checked.map₂_eq_valid.1 h'
    obtain rfl : fx = fx' := Checked.valid.inj (hfx.symm.trans hfx')
    refine foldl_withClause_effects_congr ?_ fx
    rw [Rule.foldl_when_effects, Rule.foldl_when_effects]
  satisfied rule rule' h h' v s draws := by
    obtain ⟨cs, fx, hcs, -, rfl⟩ := Checked.map₂_eq_valid.1 h
    obtain ⟨ds, fx', hds, -, rfl⟩ := Checked.map₂_eq_valid.1 h'
    have hwithin : ∀ {gs : List Guard} {cs : List Condition},
        Guard.checkAll names lexicon gs = .valid cs → ∀ c ∈ cs, c.Within (Minted lexicon) :=
      fun hchecked c hc => within_of_mem hc (Guard.within_of_checkAll hchecked)
    have hkindred := kindred_minted lexicon
    rw [Rule.isSatisfied, Rule.isSatisfied, foldl_withClause_conditions,
      foldl_withClause_conditions, Rule.allHold_foldl_when hkindred hr (hwithin hcs),
      Rule.allHold_foldl_when hkindred hr (hwithin hds)]
    obtain ⟨first, inner, last, rfl, rfl⟩ := Guard.checkAll_group hcs hds
    -- what the rule asks for before its body comes before the group too
    rw [← List.append_assoc, allHold_all]
    simp only [List.append_assoc]

/-! ## Rules as they are written -/

/-- The same conditions in one pair of parentheses. -/
def Phrase.When.grouped (w : Phrase.When) : Phrase.When where
  first := .mk (.group w.first (w.others.map (·.cond))) []
  others := []

/-- A group means all of its conditions, and a group of one means that one. -/
theorem Phrase.When.tree_grouped (w : Phrase.When) :
    w.grouped.tree = [.and w.tree ⟨0, 0⟩] ∨ w.grouped.tree = w.tree := by
  obtain ⟨first, others⟩ := w
  cases others with
  | nil =>
    right
    simp [grouped, tree, Phrase.Cond.tree, Phrase.Unary.tree]
  | cons second rest =>
    left
    simp [grouped, tree, Phrase.Cond.tree, Phrase.Unary.tree, Phrase.Cond.treeAll_eq_map]

/-- Whether rules that differ in their conditions only are the same rules with
these and with those. -/
def SameGuards (gs hs : List Guard) : Prop :=
  ∀ names lexicon clauses,
    SameRule ((RuleBody.mk gs clauses).check names lexicon .empty)
      ((RuleBody.mk hs clauses).check names lexicon .empty) ∧
    ∀ verb noun, SameRule ((ActionDecl.mk verb noun ⟨gs, clauses⟩).check names lexicon)
      ((ActionDecl.mk verb noun ⟨hs, clauses⟩).check names lexicon)

theorem SameGuards.refl (gs : List Guard) : SameGuards gs gs :=
  fun _ _ _ => ⟨.refl _, fun _ _ => .refl _⟩

theorem sameGuards_group (before parts after : List Guard) (span : Span) :
    SameGuards (before ++ .and parts span :: after) (before ++ parts ++ after) := by
  intro names lexicon clauses
  refine ⟨RuleBody.sameRule_group (List.forall_mem_nil _) before parts after span clauses, ?_⟩
  intro verb noun
  -- the words that the command is compared with do not depend on the body
  have hwithin := (ActionDecl.mk verb noun ⟨[], clauses⟩).within_pattern lexicon
  exact RuleBody.sameRule_group hwithin before parts after span clauses

theorem sameGuards_grouped (w : Phrase.When) : SameGuards w.grouped.tree w.tree := by
  rcases w.tree_grouped with h | h
  · have hgroup := sameGuards_group [] w.tree [] ⟨0, 0⟩
    simp only [List.nil_append, List.append_nil] at hgroup
    rwa [h]
  · rw [h]
    exact .refl _

/-- The connectives obey the laws of logic in the answers and in the draws that
are left.  A rule asks for its conditions as if they were one, so that to put the
conditions of a script into one pair of parentheses changes none of its rules. -/
theorem connectives_lawful (v : Scope) (s : State) (draws : Draws) :
    (∀ cs, holds v s (.not (.all cs)) draws = holds v s (.any (cs.map .not)) draws) ∧
    (∀ cs, holds v s (.not (.any cs)) draws = holds v s (.all (cs.map .not)) draws) ∧
    (∀ c, holds v s (.not (.not c)) draws = holds v s c draws) ∧
    (∀ before inner after, holds v s (.all (before ++ .all inner :: after)) draws =
      holds v s (.all (before ++ inner ++ after)) draws) ∧
    (∀ before inner after, holds v s (.any (before ++ .any inner :: after)) draws =
      holds v s (.any (before ++ inner ++ after)) draws) ∧
    (∀ r : Rule, r.isSatisfied v s draws = holds v s (.all r.conditions) draws) ∧
    (∀ before parts after span,
      SameGuards (before ++ .and parts span :: after) (before ++ parts ++ after)) ∧
    ∀ w : Phrase.When, SameGuards w.grouped.tree w.tree := by
  refine ⟨fun cs => holds_not_all cs draws, fun cs => holds_not_any cs draws,
    fun c => holds_not_not c draws, fun before inner after => ?_, fun before inner after => ?_,
    fun r => ?_, sameGuards_group, sameGuards_grouped⟩
  · rw [holds, holds, allHold_all]
  · rw [holds, holds, someHold_any]
  · rw [holds, Rule.isSatisfied]

/-- In parentheses there is an `and` between two conditions, wherever there was none. -/
example :
    let lit : Phrase.Further := ⟨false, .mk (.atom (.flag "lit")) []⟩
    (Phrase.When.mk (.mk (.atom .always) []) [lit]).grouped.tokens =
      [.word "when", .leftParen, .word "always", .word "and", .word "flag", .word "lit",
        .rightParen] := by
  rfl

end Script
end TextAdventure
