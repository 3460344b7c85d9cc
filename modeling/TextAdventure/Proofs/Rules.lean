/-
Building rules: what their conditions and effects come to.

A rule keeps a condition that is repeated once only.  Over words of a family in
which a name has one set of spellings, the rule is still satisfied exactly when
all the conditions it was given hold one after the other, and from the same
draws.
-/
import TextAdventure.Proofs.Conditions

namespace TextAdventure

namespace Condition

variable {v : Scope} {s : State}

theorem allHold_append (cs ds : List Condition) (draws : Draws) :
    allHold v s (cs ++ ds) draws =
      match allHold v s cs draws with
      | (true, draws) => allHold v s ds draws
      | (false, draws) => (false, draws) := by
  induction cs generalizing draws with
  | nil => rfl
  | cons c rest ih =>
    rw [List.cons_append, allHold, allHold]
    cases h : holds v s c draws with
    | mk b draws' =>
      cases b with
      | true => exact ih draws'
      | false => rfl

/-- Each of the conditions that hold one after the other holds when its turn
comes. -/
theorem exists_holds_of_allHold {cs : List Condition} {c : Condition} (hc : c ∈ cs)
    {draws draws' : Draws} (h : allHold v s cs draws = (true, draws')) :
    ∃ between, (holds v s c between).1 = true := by
  induction cs generalizing draws with
  | nil => exact absurd hc List.not_mem_nil
  | cons d rest ih =>
    rw [allHold] at h
    split at h
    · next between heq =>
      rcases List.mem_cons.1 hc with rfl | hc
      · exact ⟨draws, by rw [heq]⟩
      · exact ih hc h
    · exact absurd (congrArg Prod.fst h) Bool.false_ne_true

end Condition

namespace Rule

open Condition

variable {v : Scope} {s : State} {P : NamedWord → Prop}

@[simp]
theorem when_effects (r : Rule) (c : Condition) : (r.when c).effects = r.effects := by
  unfold when
  split <;> rfl

@[simp]
theorem foldl_when_effects (cs : List Condition) (r : Rule) :
    (cs.foldl when r).effects = r.effects := by
  induction cs generalizing r with
  | nil => rfl
  | cons c rest ih => rw [List.foldl_cons, ih, when_effects]

theorem mem_when {r : Rule} {c d : Condition} (h : d ∈ (r.when c).conditions) :
    d ∈ r.conditions ∨ d = c := by
  unfold when at h
  split at h
  · simpa using h
  · exact .inl h

theorem mem_foldl_when {cs : List Condition} {r : Rule} {d : Condition}
    (h : d ∈ (cs.foldl when r).conditions) : d ∈ r.conditions ∨ d ∈ cs := by
  induction cs generalizing r with
  | nil => exact .inl h
  | cons c rest ih =>
    rcases ih h with h | h
    · rcases mem_when h with h | rfl
      · exact .inl h
      · exact .inr List.mem_cons_self
    · exact .inr (List.mem_cons_of_mem _ h)

/-- A condition that is left out would have held: one that is written alike held
before, and neither takes a draw. -/
theorem allHold_when (hP : Kindred P) {r : Rule} {c : Condition}
    (hr : ∀ d ∈ r.conditions, d.Within P) (hc : c.Within P) (draws : Draws) :
    allHold v s (r.when c).conditions draws = allHold v s (r.conditions ++ [c]) draws := by
  unfold when
  split
  · rfl
  · next hleft =>
    rw [Bool.or_eq_true, not_or, Bool.not_eq_true, Bool.not_eq_true, Bool.not_eq_false',
      List.any_eq_true] at hleft
    obtain ⟨hchance, d, hd, hsame⟩ := hleft
    obtain ⟨b, hb⟩ := exists_holds_eq (v := v) (s := s) hchance
    rw [allHold_append]
    cases hall : allHold v s r.conditions draws with
    | mk held draws' =>
      cases held with
      | false => rfl
      | true =>
        obtain ⟨between, hheld⟩ := exists_holds_of_allHold hd hall
        rw [holds_congr hP (hr d hd) hc hsame, hb] at hheld
        have hbtrue : b = true := hheld
        show (true, draws') = allHold v s [c] draws'
        simp only [allHold, hb, hbtrue]

theorem allHold_foldl_when (hP : Kindred P) {cs : List Condition} {r : Rule}
    (hr : ∀ d ∈ r.conditions, d.Within P) (hcs : ∀ c ∈ cs, c.Within P) (draws : Draws) :
    allHold v s (cs.foldl when r).conditions draws = allHold v s (r.conditions ++ cs) draws := by
  induction cs generalizing r with
  | nil => rw [List.foldl_nil, List.append_nil]
  | cons c rest ih =>
    obtain ⟨hc, hrest⟩ := List.forall_mem_cons.1 hcs
    have hwhen : ∀ d ∈ (r.when c).conditions, d.Within P := by
      intro d hd
      rcases mem_when hd with hd | rfl
      · exact hr d hd
      · exact hc
    rw [List.foldl_cons, ih hwhen hrest, allHold_append, allHold_when hP hr hc,
      ← allHold_append, List.append_assoc, List.singleton_append]

end Rule
end TextAdventure
