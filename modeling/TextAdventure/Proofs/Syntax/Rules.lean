/-
The bodies of rules are read as the grammar has them.

Conditions stand side by side, and what comes after the last of them is always a
clause, which begins with `then`.
-/
import TextAdventure.Proofs.Syntax.Steps

namespace TextAdventure
namespace Script
namespace Grammar

open Reader

variable {n : Nat} {c : Cursor}

/-! ## Conditions side by side -/

/-- What can come after a condition and belongs to it or to the next one. -/
def adjoins (t : Token) : Bool :=
  goesOn t || t == .word "when" || t == .word "and" || startsGuard t

theorem goesOn_of_startsGuard {t : Token} (ht : startsGuard t = true) : goesOn t = false := by
  cases hon : goesOn t with
  | false => rfl
  | true =>
    cases t with
    | word w =>
      have hor : Token.word w = .word "or" := beq_iff_eq.1 hon
      rw [hor] at ht
      exact absurd ht (by decide)
    | leftParen => exact absurd hon (by decide)
    | _ => exact absurd ht Bool.false_ne_true

theorem further_starts (f : Phrase.Further) :
    ∃ t ts, f.tokens = t :: ts ∧ (t == .word "and" || startsGuard t) = true := by
  obtain ⟨joined, cond⟩ := f
  cases joined with
  | true => exact ⟨.word "and", cond.tokens, rfl, rfl⟩
  | false =>
    obtain ⟨t, ts, hcond, ht⟩ := cond_starts cond
    exact ⟨t, ts, hcond, by rw [ht, Bool.or_true]⟩

theorem decides_further :
    Decides n (do
        if ← nextIs (.word "and") then keyword "and"
        guard)
      Phrase.Further.tokens (Free goesOn) fun g f => g.bare = f.cond.tree := by
  intro c _
  refine .nextIs ?_ ?_
  · intro hhead
    refine .narrow (g := fun x => ⟨true, x⟩) (.skip fun c' _ => decides_guard c' (Nat.le_refl _))
      ?_ fun _ => rfl
    rintro ⟨joined, cond⟩ r hr _
    cases joined with
    | true => exact ⟨cond, rfl⟩
    | false =>
      obtain ⟨t, ts, hcond, ht⟩ := cond_starts cond
      rw [hr, Phrase.Further.tokens, if_neg Bool.false_ne_true, hcond] at hhead
      rw [Option.some.inj hhead] at ht
      exact absurd ht (by decide)
  · intro hhead
    refine .narrow (g := fun x => ⟨false, x⟩) (decides_guard c (Nat.le_refl _)) ?_ fun _ => rfl
    rintro ⟨joined, cond⟩ r hr _
    cases joined with
    | true => exact absurd (hr ▸ rfl) hhead
    | false => exact ⟨cond, rfl⟩

theorem goesOn_further (f : Phrase.Further) (r : List Token) : Free goesOn (f.tokens ++ r) := by
  obtain ⟨t, ts, hf, ht⟩ := further_starts f
  rw [hf, List.cons_append, Free.cons]
  rcases Bool.or_eq_true_iff.1 ht with hand | hguard
  · rw [beq_iff_eq.1 hand]
    rfl
  · exact goesOn_of_startsGuard hguard

theorem adjoins_of_goesOn {t : Token} (ht : goesOn t = true) : adjoins t = true := by
  simp [adjoins, ht]

theorem decides_furthers :
    DecidesAt (many (fun t => t == .word "and" || startsGuard t) do
        if ← nextIs (.word "and") then keyword "and"
        guard)
      (fun fs => fs.flatMap Phrase.Further.tokens) (Free adjoins)
      (fun gs (fs : List Phrase.Further) => gs.map Guard.bare = fs.map (·.cond.tree)) c := by
  have hread := DecidesAt.many (decides_further (n := c.ahead.length)) further_starts goesOn_further
    fun r (hr : Free adjoins r) =>
      ⟨hr.mono fun _ => adjoins_of_goesOn, hr.mono fun t ht => by
        simp [adjoins, Bool.or_assoc, ht]⟩
  exact hread.imp fun _ _ => map_eq_of_forall₂

theorem decides_when :
    DecidesAt (do
        keyword "when"
        let first ← guard
        let others ← many (fun t => t == .word "and" || startsGuard t) do
          if ← nextIs (.word "and") then keyword "and"
          guard
        return first :: others)
      Phrase.When.tokens (Free adjoins) (fun gs w => gs.map Guard.bare = w.tree) c := by
  have hparts : DecidesAt (do
        keyword "when"
        let first ← guard
        let others ← many (fun t => t == .word "and" || startsGuard t) do
          if ← nextIs (.word "and") then keyword "and"
          guard
        return first :: others)
      (fun x => .word "when" :: both Phrase.Cond.tokens
        (fun fs => fs.flatMap Phrase.Further.tokens) x) (Free adjoins)
      (fun gs x => gs.map Guard.bare = (Phrase.When.mk x.1 x.2).tree) c := by
    refine .skip ?_
    intro c' _
    have hfirst := decides_guard c' (Nat.le_refl _)
    refine hfirst.andMany (fun _ _ _ => decides_furthers) goesOn_further ?_ ?_
    · intro r hr
      exact hr.mono fun _ => adjoins_of_goesOn
    · intro first x others fs hx hfs
      rw [List.map_cons, hx, hfs]
      rfl
  exact hparts.rename (fun x => ⟨x.1, x.2⟩) (fun w => (w.first, w.others)) (fun _ => rfl)
    (fun _ => rfl) fun _ _ => id

theorem decides_guards :
    DecidesAt guards (Phrase.optional Phrase.When.tokens) (Free adjoins)
      (fun gs w => gs.map Guard.bare = w.elim [] Phrase.When.tree) c := by
  refine .nextIs ?_ ?_
  · intro hhead
    rw [if_pos rfl]
    refine decides_when.narrow (g := some) ?_ fun _ => rfl
    intro e r hr hr'
    cases e with
    | none =>
      obtain rfl : _ = r := hr
      exact absurd (hr' _ hhead) (by decide)
    | some w => exact ⟨w, rfl⟩
  · intro hhead
    refine .pure (d := none) rfl ?_ rfl
    intro e r hr _
    cases e with
    | none => rfl
    | some w => exact absurd (hr ▸ rfl) hhead

/-! ## Bodies -/

/-- What can come after the body of a rule and belong to it. -/
def prolongs (t : Token) : Bool :=
  isInteger t || Keywords.starts steps t || t == .word "then"

theorem prolongs_of_isInteger {t : Token} (ht : isInteger t = true) : prolongs t = true := by
  simp [prolongs, ht]

theorem prolongs_of_starts {t : Token} (ht : Keywords.starts steps t = true) :
    prolongs t = true := by
  simp [prolongs, ht]

theorem ends_clause_of_free {r : List Token} (hr : Free prolongs r) :
    Free isInteger r ∧ Free (Keywords.starts steps) r :=
  ⟨hr.mono fun _ => prolongs_of_isInteger, hr.mono fun _ => prolongs_of_starts⟩

theorem ends_clause_of_clause (x : Phrase.Clause) (r : List Token) :
    Free isInteger (x.tokens ++ r) ∧ Free (Keywords.starts steps) (x.tokens ++ r) :=
  ⟨Free.cons.2 rfl, Free.cons.2 (by decide)⟩

theorem decides_clauses :
    DecidesAt (many (· == .word "then") clause)
      (fun xs => xs.flatMap Phrase.Clause.tokens) (Free prolongs)
      (fun as (xs : List Phrase.Clause) => as.map Step.bareAll = xs.map Phrase.Clause.tree)
      c := by
  refine (DecidesAt.many decides_clause ?_ ends_clause_of_clause ?_).imp ?_
  · intro x
    exact ⟨.word "then", _, rfl, rfl⟩
  · intro r hr
    exact ⟨ends_clause_of_free hr, hr.mono fun t ht => by simp [prolongs, ht]⟩
  · intro as xs
    exact map_eq_of_forall₂

theorem decides_ruleBody :
    Decides n ruleBody Phrase.Body.tokens (Free prolongs) fun a x => a.bare = x.tree := by
  intro c _
  have hparts : DecidesAt ruleBody
      (both (Phrase.optional Phrase.When.tokens)
        (both Phrase.Clause.tokens fun xs => xs.flatMap Phrase.Clause.tokens)) (Free prolongs)
      (fun a x => a.bare = (Phrase.Body.mk x.1 x.2.1 x.2.2).tree) c := by
    refine decides_guards.bind ?_ ?_
    · intro guards w c' hguards _
      have hfirst := decides_clause c' (Nat.le_refl _)
      refine hfirst.andMany (fun _ _ _ => decides_clauses) ends_clause_of_clause
        (fun _ => ends_clause_of_free) ?_
      intro first x others xs hx hxs
      rw [RuleBody.bare, hguards, List.map_cons, hx, hxs]
      rfl
    · intro x r _
      exact Free.cons.2 (by decide)
  exact hparts.rename (fun x => ⟨x.1, x.2.1, x.2.2⟩) (fun x => (x.guards, x.first, x.others))
    (fun _ => rfl) (fun _ => rfl) fun _ _ => id

end Grammar

end Script
end TextAdventure
