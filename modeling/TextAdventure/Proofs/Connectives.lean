/-
How conditions are joined.

The laws of `not`, `all` and `any` are those of logic, and hold of more than the
answer.  Both sides of a law ask the same parts in the same order and end at the
same one, so that they take the same draws, and what is asked next goes on from
the same place.
-/
import TextAdventure.Proofs.Rules

namespace TextAdventure
namespace Condition

variable {v : Scope} {s : State}

/-! ## What is denied -/

theorem holds_not (c : Condition) (draws : Draws) :
    holds v s (.not c) draws = (!(holds v s c draws).1, (holds v s c draws).2) := by
  rw [holds]

/-- One of some conditions is denied where they do not all hold. -/
theorem someHold_map_not (cs : List Condition) (draws : Draws) :
    someHold v s (cs.map .not) draws =
      (!(allHold v s cs draws).1, (allHold v s cs draws).2) := by
  induction cs generalizing draws with
  | nil => rfl
  | cons c rest ih =>
    rw [List.map_cons, someHold, allHold, holds_not]
    obtain ⟨answer, left⟩ := holds v s c draws
    cases answer with
    | true => exact ih left
    | false => rfl

theorem allHold_map_not (cs : List Condition) (draws : Draws) :
    allHold v s (cs.map .not) draws =
      (!(someHold v s cs draws).1, (someHold v s cs draws).2) := by
  induction cs generalizing draws with
  | nil => rfl
  | cons c rest ih =>
    rw [List.map_cons, someHold, allHold, holds_not]
    obtain ⟨answer, left⟩ := holds v s c draws
    cases answer with
    | true => rfl
    | false => exact ih left

theorem holds_not_all (cs : List Condition) (draws : Draws) :
    holds v s (.not (.all cs)) draws = holds v s (.any (cs.map .not)) draws := by
  rw [holds_not, holds, holds, someHold_map_not]

theorem holds_not_any (cs : List Condition) (draws : Draws) :
    holds v s (.not (.any cs)) draws = holds v s (.all (cs.map .not)) draws := by
  rw [holds_not, holds, holds, allHold_map_not]

theorem holds_not_not (c : Condition) (draws : Draws) :
    holds v s (.not (.not c)) draws = holds v s c draws := by
  rw [holds_not, holds_not, Bool.not_not]

/-! ## What is grouped -/

theorem someHold_append (cs ds : List Condition) (draws : Draws) :
    someHold v s (cs ++ ds) draws =
      match someHold v s cs draws with
      | (true, draws) => (true, draws)
      | (false, draws) => someHold v s ds draws := by
  induction cs generalizing draws with
  | nil => rfl
  | cons c rest ih =>
    rw [List.cons_append, someHold, someHold]
    obtain ⟨answer, left⟩ := holds v s c draws
    cases answer with
    | true => rfl
    | false => exact ih left

/-- Conditions that are asked as one are asked where that one stands. -/
theorem allHold_all (before inner after : List Condition) (draws : Draws) :
    allHold v s (before ++ .all inner :: after) draws =
      allHold v s (before ++ inner ++ after) draws := by
  have hgroup : ∀ draws, allHold v s (.all inner :: after) draws =
      allHold v s (inner ++ after) draws := by
    intro draws
    rw [allHold, holds]
    exact (allHold_append inner after draws).symm
  rw [List.append_assoc, allHold_append, allHold_append before]
  simp only [hgroup]

theorem someHold_any (before inner after : List Condition) (draws : Draws) :
    someHold v s (before ++ .any inner :: after) draws =
      someHold v s (before ++ inner ++ after) draws := by
  have hgroup : ∀ draws, someHold v s (.any inner :: after) draws =
      someHold v s (inner ++ after) draws := by
    intro draws
    rw [someHold, holds]
    exact (someHold_append inner after draws).symm
  rw [List.append_assoc, someHold_append, someHold_append before]
  simp only [hgroup]

end Condition
end TextAdventure
