/-
What a condition leaves to chance.

Of the parts that a condition is made of, only a percentage between the extremes
asks for a draw, and no part is decided twice.  So a condition takes at most as
many draws as it has such parts, and nothing about a source matters to it but the
draws that it takes.  One without such parts takes none and has one answer.
-/
import TextAdventure.Condition

namespace TextAdventure

namespace Draws

/-- A source after its next `n` draws. -/
def skip : Nat → Draws → Draws
  | 0, d => d
  | n + 1, d => skip n d.take.2

/-- Whether two sources give the same next `n` draws. -/
def Agree (n : Nat) (d e : Draws) : Prop :=
  ∀ k < n, (d.skip k).take.1 = (e.skip k).take.1

variable {d e : Draws} {n m : Nat}

theorem skip_add (n m : Nat) (d : Draws) : d.skip (n + m) = (d.skip n).skip m := by
  induction n generalizing d with
  | zero => rw [Nat.zero_add, skip]
  | succ n ih => rw [Nat.succ_add, skip, skip, ih]

theorem taken_skip (n : Nat) (d : Draws) : (d.skip n).taken = d.taken + n := by
  induction n generalizing d with
  | zero => rfl
  | succ n ih =>
    rw [skip, ih]
    show d.taken + 1 + n = d.taken + (n + 1)
    omega

theorem Agree.refl (n : Nat) (d : Draws) : Agree n d d := fun _ _ => rfl

theorem Agree.mono (h : Agree m d e) (hle : n ≤ m) : Agree n d e :=
  fun k hk => h k (Nat.lt_of_lt_of_le hk hle)

theorem Agree.skip (h : Agree (n + m) d e) : Agree m (d.skip n) (e.skip n) := by
  intro k hk
  rw [← skip_add, ← skip_add]
  exact h (n + k) (by omega)

end Draws

/-- Whether an evaluation from `d` takes the next `n` draws and these decide it:
from a source that gives the same `n` draws it has the same answer. -/
def DecidedBy (n : Nat) (eval : Draws → Bool × Draws) (d : Draws) : Prop :=
  ∀ e, d.Agree n e → eval e = ((eval d).1, e.skip n)

namespace DecidedBy

variable {eval next : Draws → Bool × Draws} {d : Draws} {n m : Nat}

theorem left (h : DecidedBy n eval d) : (eval d).2 = d.skip n :=
  congrArg Prod.snd (h d (.refl n d))

theorem eq_of_fst {b : Bool} (h : DecidedBy n eval d) (hb : (eval d).1 = b) :
    eval d = (b, d.skip n) := by
  rw [← hb]
  exact h d (.refl n d)

/-- What looks at no draw is decided by none. -/
theorem const (b : Bool) (d : Draws) : DecidedBy 0 (fun d => (b, d)) d := fun _ _ => rfl

theorem negate (h : DecidedBy n eval d) :
    DecidedBy n (fun d => (!(eval d).1, (eval d).2)) d := by
  intro e he
  simp only [h e he]

/-- What goes on only after the answer `b` is decided by the draws of both parts,
taken together. -/
theorem goesOn {b : Bool} (h : DecidedBy n eval d) (hb : (eval d).1 = b)
    (hnext : DecidedBy m next (d.skip n)) :
    DecidedBy (n + m) (fun d => if (eval d).1 = b then next (eval d).2 else eval d) d := by
  intro e he
  have hd := h.eq_of_fst hb
  have heq : eval e = (b, e.skip n) := by rw [h e (he.mono (by omega)), hb]
  simp only [heq, hd, if_true]
  rw [hnext (e.skip n) he.skip, Draws.skip_add]

theorem stops {b : Bool} (h : DecidedBy n eval d) (hb : (eval d).1 ≠ b) :
    DecidedBy n (fun d => if (eval d).1 = b then next (eval d).2 else eval d) d := by
  intro e he
  simp only [h e he, if_neg hb]

end DecidedBy

namespace Condition

variable {v : Scope} {s : State}

/-! ## Parts left to chance -/

mutual
/-- How many percentages that are left to chance a condition has. -/
def chances : Condition → Nat
  | .random percent => if 0 < percent ∧ percent < 100 then 1 else 0
  | .not c => chances c
  | .all cs => chancesOf cs
  | .any cs => chancesOf cs
  | _ => 0

def chancesOf : List Condition → Nat
  | [] => 0
  | c :: rest => chances c + chancesOf rest
end

theorem byChance_iff {percent : Nat} : byChance percent = true ↔ 0 < percent ∧ percent < 100 := by
  rw [byChance, Bool.and_eq_true, decide_eq_true_iff, decide_eq_true_iff]

mutual
theorem chances_eq_zero {c : Condition} (h : c.mayDraw = false) : c.chances = 0 := by
  cases c with
  | random percent =>
    rw [mayDraw, Bool.eq_false_iff, Ne, byChance_iff] at h
    rw [chances, if_neg h]
  | not c =>
    rw [chances]
    exact chances_eq_zero h
  | all cs =>
    rw [chances]
    exact chancesOf_eq_zero h
  | any cs =>
    rw [chances]
    exact chancesOf_eq_zero h
  | _ => rfl

theorem chancesOf_eq_zero {cs : List Condition} (h : someMayDraw cs = false) :
    chancesOf cs = 0 := by
  cases cs with
  | nil => rfl
  | cons c rest =>
    obtain ⟨hc, hrest⟩ := Bool.or_eq_false_iff.1 h
    rw [chancesOf, chances_eq_zero hc, chancesOf_eq_zero hrest]
end

/-! ## Evaluation -/

theorem allHold_cons (c : Condition) (rest : List Condition) :
    allHold v s (c :: rest) = fun draws =>
      if (holds v s c draws).1 = true then allHold v s rest (holds v s c draws).2
      else holds v s c draws := by
  funext draws
  rw [allHold]
  split
  · next heq => simp only [heq, if_true]
  · next heq => simp only [heq, Bool.false_eq_true, if_false]

theorem someHold_cons (c : Condition) (rest : List Condition) :
    someHold v s (c :: rest) = fun draws =>
      if (holds v s c draws).1 = false then someHold v s rest (holds v s c draws).2
      else holds v s c draws := by
  funext draws
  rw [someHold]
  split
  · next heq => simp only [heq, Bool.true_eq_false, if_false]
  · next heq => simp only [heq, if_true]

/-- A percentage between the extremes takes one draw, and any other takes none. -/
theorem decidedBy_random (percent : Nat) (draws : Draws) :
    DecidedBy (random percent).chances (holds v s (.random percent)) draws := by
  intro e he
  by_cases h : 0 < percent ∧ percent < 100
  · rw [chances, if_pos h] at he ⊢
    have hdraw : draws.take.1 = e.take.1 := he 0 Nat.one_pos
    rw [holds, holds, if_pos (byChance_iff.2 h), if_pos (byChance_iff.2 h)]
    simp only [hdraw]
    rfl
  · rw [chances, if_neg h, holds, holds, if_neg (mt byChance_iff.1 h),
      if_neg (mt byChance_iff.1 h)]
    rfl

mutual
theorem exists_decidedBy (c : Condition) (draws : Draws) :
    ∃ n ≤ c.chances, DecidedBy n (holds v s c) draws := by
  cases c with
  | random percent => exact ⟨_, Nat.le_refl _, decidedBy_random percent draws⟩
  | not c =>
    obtain ⟨n, hle, hn⟩ := exists_decidedBy c draws
    exact ⟨n, hle, hn.negate⟩
  | all cs => exact exists_decidedBy_all cs draws
  | any cs => exact exists_decidedBy_some cs draws
  | _ => exact ⟨0, Nat.le_refl 0, .const _ draws⟩

theorem exists_decidedBy_all (cs : List Condition) (draws : Draws) :
    ∃ n ≤ chancesOf cs, DecidedBy n (allHold v s cs) draws := by
  cases cs with
  | nil => exact ⟨0, Nat.le_refl 0, .const true draws⟩
  | cons c rest =>
    obtain ⟨n, hn, hc⟩ := exists_decidedBy c draws
    rw [allHold_cons, chancesOf]
    by_cases hb : (holds v s c draws).1 = true
    · obtain ⟨m, hm, hrest⟩ := exists_decidedBy_all rest (draws.skip n)
      exact ⟨n + m, Nat.add_le_add hn hm, hc.goesOn hb hrest⟩
    · exact ⟨n, Nat.le_add_right_of_le hn, hc.stops hb⟩

theorem exists_decidedBy_some (cs : List Condition) (draws : Draws) :
    ∃ n ≤ chancesOf cs, DecidedBy n (someHold v s cs) draws := by
  cases cs with
  | nil => exact ⟨0, Nat.le_refl 0, .const false draws⟩
  | cons c rest =>
    obtain ⟨n, hn, hc⟩ := exists_decidedBy c draws
    rw [someHold_cons, chancesOf]
    by_cases hb : (holds v s c draws).1 = false
    · obtain ⟨m, hm, hrest⟩ := exists_decidedBy_some rest (draws.skip n)
      exact ⟨n + m, Nat.add_le_add hn hm, hc.goesOn hb hrest⟩
    · exact ⟨n, Nat.le_add_right_of_le hn, hc.stops hb⟩
end

/-- A condition that asks for no draw answers the same whatever the draws, and
leaves them as they are. -/
theorem exists_holds_eq {c : Condition} (h : c.mayDraw = false) :
    ∃ b, ∀ draws, holds v s c draws = (b, draws) := by
  obtain ⟨n, hn, hc⟩ := exists_decidedBy (v := v) (s := s) c (.ofBytes [])
  rw [chances_eq_zero h, Nat.le_zero] at hn
  subst hn
  exact ⟨_, fun draws => hc draws fun k hk => absurd hk (Nat.not_lt_zero k)⟩

/-- Where a draw is below 100, a percentage decides as a comparison with the draw
would, also at the extremes, which do not look at it. -/
theorem holds_random (percent : Nat) {draws : Draws} (h : draws.take.1 < 100) :
    holds v s (.random percent) draws = (decide (draws.take.1 < percent),
      if 0 < percent ∧ percent < 100 then draws.take.2 else draws) := by
  rw [holds]
  by_cases hchance : 0 < percent ∧ percent < 100
  · rw [if_pos (byChance_iff.2 hchance), if_pos hchance]
  · rw [if_neg (mt byChance_iff.1 hchance), if_neg hchance]
    have hextreme : 0 < percent ↔ draws.take.1 < percent := by omega
    rw [decide_eq_decide.2 hextreme]

/-- What a condition has to do with chance.  If it may not draw, it answers the
same from every source and takes nothing.  In any case it takes at most one draw
for each of its percentages that are left to chance, and a source that begins with
the draws that were taken leads to the same answer.  A percentage compares a draw
below 100 with itself, and takes it unless the answer is known without. -/
theorem decided_by_draws (v : Scope) (s : State) (c : Condition) (draws : Draws) :
    (c.mayDraw = false → ∃ answer, ∀ source, holds v s c source = (answer, source)) ∧
    (∃ n ≤ c.chances, (holds v s c draws).2 = draws.skip n ∧
      (holds v s c draws).2.taken = draws.taken + n ∧
      ∀ other, draws.Agree n other →
        holds v s c other = ((holds v s c draws).1, other.skip n)) ∧
    ∀ percent, draws.take.1 < 100 →
      holds v s (.random percent) draws = (decide (draws.take.1 < percent),
        if 0 < percent ∧ percent < 100 then draws.take.2 else draws) := by
  refine ⟨exists_holds_eq, ?_, fun percent => holds_random percent⟩
  obtain ⟨n, hn, hc⟩ := exists_decidedBy (v := v) (s := s) c draws
  refine ⟨n, hn, hc.left, ?_, hc⟩
  rw [hc.left, Draws.taken_skip]

/-- Percentages at the extremes take no draw, one between them compares it. -/
theorem decided_by_draws_sample :
    let v : Scope := ⟨.empty, .empty⟩
    let s := State.initial .empty "hall"
    let c : Condition := .all [.not (.random 0), .any [.flag "lit", .random 100]]
    let draws := Draws.ofBytes [29]
    c.mayDraw = false ∧ (∃ answer, ∀ source, holds v s c source = (answer, source)) ∧
    draws.take.1 < 100 ∧ holds v s (.random 30) draws = (true, draws.take.2) := by
  intro v s c draws
  obtain ⟨hsame, -, hrandom⟩ := decided_by_draws v s c draws
  have hbelow : draws.take.1 < 100 := by decide
  exact ⟨rfl, hsame rfl, hbelow, hrandom 30 hbelow⟩

end Condition
end TextAdventure
