/-
Conditions that are left out of a rule.

While a rule is built, a condition that it already has is left out, unless draws
decide it.  Leaving one out takes no draw from those that are asked after it, and
it never spoils a rule whose conditions all hold.  Whether it can make a rule
hold that would not depends on the words: conditions are compared by the names
of their words, and a word of the same name may be spelled differently.  Where
each name has one set of spellings, as in every script, the rule asks for all
that it was given.
-/
import TextAdventure.Proofs.Rules

namespace TextAdventure
namespace Rule

open Condition

/-! ## Building -/

/-- What a rule is given while it is built. -/
inductive Call where
  | condition (c : Condition)
  | restart (e : Effect)
  | append (e : Effect)

namespace Call

def apply (r : Rule) : Call → Rule
  | .condition c => r.when c
  | .restart e => r.restart e
  | .append e => r.append e

def condition? : Call → Option Condition
  | .condition c => some c
  | _ => none

end Call

/-- The rule that is built from a pattern, by one call after the other. -/
def build (pattern : List Word) (calls : List Call) : Rule :=
  calls.foldl Call.apply (on pattern)

/-- The conditions that ask for the words of a pattern from position `p` on. -/
def wordsFrom (p : Nat) : List Word → List Condition
  | [] => []
  | w :: rest => .word p w :: wordsFrom (p + 1) rest

/-- All the conditions that a rule is given, in order. -/
def given (pattern : List Word) (calls : List Call) : List Condition :=
  wordsFrom 1 pattern ++ calls.filterMap Call.condition?

theorem whenWords_eq (r : Rule) (p : Nat) (pattern : List Word) :
    r.whenWords p pattern = (wordsFrom p pattern).foldl when r := by
  induction pattern generalizing r p with
  | nil => rfl
  | cons w rest ih => exact ih (r.when (.word p w)) (p + 1)

/-- Which conditions a rule gets does not depend on its effects. -/
theorem conditions_when_congr {r r' : Rule} (h : r.conditions = r'.conditions) (c : Condition) :
    (r.when c).conditions = (r'.when c).conditions := by
  unfold when
  rw [h]
  split
  · rfl
  · exact h

theorem conditions_foldl_apply {r r' : Rule} (h : r.conditions = r'.conditions)
    (calls : List Call) :
    (calls.foldl Call.apply r).conditions =
      ((calls.filterMap Call.condition?).foldl when r').conditions := by
  induction calls generalizing r r' with
  | nil => exact h
  | cons call rest ih =>
    cases call with
    | condition c => exact ih (conditions_when_congr h c)
    | restart e => exact ih h
    | append e => exact ih h

theorem conditions_build (pattern : List Word) (calls : List Call) :
    (build pattern calls).conditions = ((given pattern calls).foldl when empty).conditions := by
  rw [build, conditions_foldl_apply rfl, given, List.foldl_append, on, whenWords_eq]

/-! ## Leaving out -/

variable {v : Scope} {s : State}

/-- A condition that is left out takes no draw, and is written like one that is
kept. -/
theorem conditions_when (r : Rule) (c : Condition) :
    (r.when c).conditions = r.conditions ++ [c] ∨
    (r.when c).conditions = r.conditions ∧ c.mayDraw = false ∧
      ∃ d ∈ r.conditions, d.same c = true := by
  unfold when
  split
  · exact .inl rfl
  · next hleft =>
    rw [Bool.or_eq_true, not_or, Bool.not_eq_true, Bool.not_eq_true, Bool.not_eq_false',
      List.any_eq_true] at hleft
    exact .inr ⟨rfl, hleft⟩

/-- What holds with a condition that takes no draw holds without it, from the
same draws. -/
theorem allHold_of_allHold_insert {cs ds : List Condition} {c : Condition}
    (hc : c.mayDraw = false) {draws draws' : Draws}
    (h : allHold v s (cs ++ c :: ds) draws = (true, draws')) :
    allHold v s (cs ++ ds) draws = (true, draws') := by
  obtain ⟨b, hb⟩ := exists_holds_eq (v := v) (s := s) hc
  rw [allHold_append] at h ⊢
  split at h
  · next between _ =>
    rw [allHold, hb] at h
    cases b with
    | true => exact h
    | false => exact absurd (congrArg Prod.fst h) Bool.false_ne_true
  · exact absurd (congrArg Prod.fst h) Bool.false_ne_true

/-- A rule is satisfied if all the conditions that it was given hold. -/
theorem allHold_foldl_when_of_true {cs : List Condition} {r : Rule} {draws draws' : Draws}
    (h : allHold v s (r.conditions ++ cs) draws = (true, draws')) :
    allHold v s (cs.foldl when r).conditions draws = (true, draws') := by
  induction cs generalizing r with
  | nil => rwa [List.append_nil] at h
  | cons c rest ih =>
    refine ih ?_
    rcases conditions_when r c with hkept | ⟨hleft, hchance, -⟩
    · rw [hkept, List.append_assoc]
      exact h
    · rw [hleft]
      exact allHold_of_allHold_insert hchance h

theorem mem_wordsOf {cs : List Condition} {w : Word} :
    w ∈ wordsOf cs ↔ ∃ c ∈ cs, w ∈ c.words := by
  induction cs with
  | nil => simp [wordsOf]
  | cons c rest ih => simp [wordsOf, ih]

/-- A built rule is satisfied from the same draws, and leaves the same, as all
the conditions that it was given when they are asked one after the other up to
the first that does not hold: always if they all hold, and also if they do not,
provided that no two words of one name in them are spelled differently. -/
theorem isSatisfied_build (pattern : List Word) (calls : List Call) (v : Scope) (s : State)
    (draws : Draws) :
    ((allHold v s (given pattern calls) draws).1 = true →
      (build pattern calls).isSatisfied v s draws = allHold v s (given pattern calls) draws) ∧
    (Kindred (fun w => .named w ∈ wordsOf (given pattern calls)) →
      (build pattern calls).isSatisfied v s draws = allHold v s (given pattern calls) draws) := by
  rw [isSatisfied, conditions_build]
  refine ⟨fun hall => ?_, fun hkindred => ?_⟩
  · have hgiven : allHold v s (given pattern calls) draws =
        (true, (allHold v s (given pattern calls) draws).2) := Prod.ext hall rfl
    rw [hgiven]
    exact allHold_foldl_when_of_true hgiven
  · have hwithin : ∀ c ∈ given pattern calls,
        c.Within fun w => .named w ∈ wordsOf (given pattern calls) := by
      intro c hc w hw
      cases w with
      | named word => exact mem_wordsOf.2 ⟨c, hc, hw⟩
      | _ => trivial
    exact allHold_foldl_when hkindred (fun d hd => absurd hd List.not_mem_nil) hwithin draws

/-! ## Words of one name -/

/-- The lamp, which is also called a light. -/
def Sample.lamp : NamedWord := .withSynonyms "lamp" ["light"]

/-- Chance is asked twice, and whether the lamp is meant once only. -/
def Sample.chances : List Call :=
  [.condition (.random 50), .restart .quit, .condition (.not (.word 2 (.named Sample.lamp))),
    .condition (.random 50), .condition (.not (.word 2 (.named Sample.lamp))),
    .condition (.word 1 .any), .append .look]

theorem isSatisfied_build_sample :
    Kindred (fun w => .named w ∈ wordsOf (given [.any] Sample.chances)) ∧
    (given [.any] Sample.chances).length = 6 ∧
    (build [.any] Sample.chances).conditions.length = 4 ∧
    ∀ v s draws, (build [.any] Sample.chances).isSatisfied v s draws =
      allHold v s (given [.any] Sample.chances) draws := by
  have hkindred : Kindred (fun w => .named w ∈ wordsOf (given [.any] Sample.chances)) := by
    intro a b ha hb _
    have hwords : wordsOf (given [.any] Sample.chances) =
        [.any, .named Sample.lamp, .named Sample.lamp, .any] := rfl
    have hlamp : ∀ w, Word.named w ∈ wordsOf (given [.any] Sample.chances) → w = Sample.lamp := by
      intro w hw
      simpa [hwords] using hw
    rw [hlamp a ha, hlamp b hb]
  exact ⟨hkindred, by decide +kernel, by decide +kernel,
    fun v s draws => (isSatisfied_build [.any] Sample.chances v s draws).2 hkindred⟩

/-- A word that is only called a lamp is left out behind one that is also called
a light, although a light is not what it asks for. -/
theorem isSatisfied_build_differs :
    ¬ ∀ pattern calls v s draws,
      (build pattern calls).isSatisfied v s draws = allHold v s (given pattern calls) draws := by
  intro h
  have hlamp := h [] [.condition (.word 1 (.named Sample.lamp)),
      .condition (.word 1 (.named (.ofName "lamp")))]
    ⟨.empty, .ofWords [.named (.ofName "light")]⟩ (.initial .empty "hall") (.ofBytes [])
  exact absurd (congrArg Prod.fst hlamp) (by decide +kernel)

end Rule
end TextAdventure
