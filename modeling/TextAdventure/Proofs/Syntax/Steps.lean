/-
Steps are read as the grammar has them.
-/
import TextAdventure.Proofs.Syntax.Conditions

namespace TextAdventure
namespace Script
namespace Grammar

open Reader

variable {n : Nat} {ok : List Token → Prop} {c : Cursor}

/-! ## Steps with two keywords -/

theorem decides_flagSteps :
    Decides n (choose flagSteps) (fun x : After Phrase.Step.tokens "flag" => x.rest) ok
      fun a x => a.bare = x.1.tree := by
  refine .choose (fun x => ?_) fun w q hq => ?_
  · obtain ⟨x, ts, hx⟩ := x
    cases x <;> simp [After.rest, Phrase.Step.tokens] at hx ⊢ <;> rfl
  unfold flagSteps at hq
  split at hq
  all_goals first
    | obtain rfl := Option.some.inj hq
    | exact absurd hq.symm (Option.some_ne_none q)
  · refine .one (fun name => ⟨.setFlag name, _, rfl⟩) (fun _ => decides_identifier)
      (fun e ts h => ?_) (fun _ => rfl) fun _ _ => congrArg Step.setFlag
    obtain ⟨e, ts', he⟩ := e
    cases e <;> simp [After.rest, Phrase.Step.tokens] at h he
    exact ⟨_, rfl⟩
  · refine .one (fun name => ⟨.resetFlag name, _, rfl⟩) (fun _ => decides_identifier)
      (fun e ts h => ?_) (fun _ => rfl) fun _ _ => congrArg Step.resetFlag
    obtain ⟨e, ts', he⟩ := e
    cases e <;> simp [After.rest, Phrase.Step.tokens] at h he
    exact ⟨_, rfl⟩

theorem decides_counterSteps :
    Decides n (choose counterSteps) (fun x : After Phrase.Step.tokens "counter" => x.rest) ok
      fun a x => a.bare = x.1.tree := by
  refine .choose (fun x => ?_) fun w q hq => ?_
  · obtain ⟨x, ts, hx⟩ := x
    cases x <;> simp [After.rest, Phrase.Step.tokens] at hx ⊢ <;> rfl
  unfold counterSteps at hq
  split at hq
  all_goals first
    | obtain rfl := Option.some.inj hq
    | exact absurd hq.symm (Option.some_ne_none q)
  · refine .intro (both (fun w => [.word w]) fun i => [.integer i])
      (fun x => ⟨.setCounter x.1 x.2, _, rfl⟩) (fun e ts h => ?_) (fun _ => rfl) fun c _ => ?_
    · obtain ⟨e, ts', he⟩ := e
      cases e <;> simp [After.rest, Phrase.Step.tokens] at h he
      exact ⟨(_, _), rfl⟩
    · refine decides_identifier.seq fun _ name c' hname _ => ?_
      refine decides_integer.result fun _ value hvalue => ⟨_, rfl, ?_⟩
      rw [hname, hvalue]
      rfl
  · refine .one (fun name => ⟨.increment name, _, rfl⟩) (fun _ => decides_identifier)
      (fun e ts h => ?_) (fun _ => rfl) fun _ _ => congrArg Step.increment
    obtain ⟨e, ts', he⟩ := e
    cases e <;> simp [After.rest, Phrase.Step.tokens] at h he
    exact ⟨_, rfl⟩
  · refine .one (fun name => ⟨.decrement name, _, rfl⟩) (fun _ => decides_identifier)
      (fun e ts h => ?_) (fun _ => rfl) fun _ _ => congrArg Step.decrement
    obtain ⟨e, ts', he⟩ := e
    cases e <;> simp [After.rest, Phrase.Step.tokens] at h he
    exact ⟨_, rfl⟩
  · refine .one (fun name => ⟨.resetCounter name, _, rfl⟩) (fun _ => decides_identifier)
      (fun e ts h => ?_) (fun _ => rfl) fun _ _ => congrArg Step.resetCounter
    obtain ⟨e, ts', he⟩ := e
    cases e <;> simp [After.rest, Phrase.Step.tokens] at h he
    exact ⟨_, rfl⟩

theorem decides_stringSteps :
    Decides n (choose stringSteps) (fun x : After Phrase.Step.tokens "string" => x.rest) ok
      fun a x => a.bare = x.1.tree := by
  refine .choose (fun x => ?_) fun w q hq => ?_
  · obtain ⟨x, ts, hx⟩ := x
    cases x <;> simp [After.rest, Phrase.Step.tokens] at hx ⊢
    rfl
  unfold stringSteps at hq
  split at hq
  all_goals first
    | obtain rfl := Option.some.inj hq
    | exact absurd hq.symm (Option.some_ne_none q)
  refine .intro (both (fun w => [.word w]) fun s => [.string s])
    (fun x => ⟨.setString x.1 x.2, _, rfl⟩) (fun e ts h => ?_) (fun _ => rfl) fun c _ => ?_
  · obtain ⟨e, ts', he⟩ := e
    cases e <;> simp [After.rest, Phrase.Step.tokens] at h he
    exact ⟨(_, _), rfl⟩
  · refine decides_identifier.seq fun _ name c' hname _ => ?_
    refine decides_string.result fun _ value hvalue => ⟨_, rfl, ?_⟩
    rw [hname, hvalue]
    rfl

/-- What follows the item that is put somewhere: `here`, or `in` and a place. -/
def whereto : Option Phrase.Place → List Token
  | none => [.word "here"]
  | some place => [.word "in", place.token]

def put (item : Phrase.Name) : Option Phrase.Place → Phrase.Step
  | none => .putHere item
  | some place => .put item place

theorem decides_putSteps {item : Spanned String} {x : Phrase.Name} (hitem : item.bare = x.tree) :
    Decides n (choose (putSteps item)) whereto ok fun a place => a.bare = (put x place).tree := by
  refine .choose (fun place => ?_) fun w q hq => ?_
  · cases place <;> exact ⟨_, _, rfl, rfl⟩
  unfold putSteps at hq
  split at hq
  all_goals first
    | obtain rfl := Option.some.inj hq
    | exact absurd hq.symm (Option.some_ne_none q)
  · refine .alone none (fun e ts h => ?_) rfl (congrArg Step.putHere hitem)
    cases e <;> simp [whereto] at h ⊢
  · refine .one some (fun _ => decides_place) (fun e ts h => ?_) (fun _ => rfl)
      fun place y hplace => ?_
    · cases e <;> simp [whereto] at h ⊢
    · rw [Step.bare, hitem, hplace]
      rfl

/-! ## All steps -/

theorem step_starts (x : Phrase.Step) :
    ∃ w ts, x.tokens = .word w :: ts ∧ (steps w).isSome = true := by
  cases x <;> exact ⟨_, _, rfl, rfl⟩

theorem decides_step :
    Decides n (choose steps) Phrase.Step.tokens (Free isInteger) fun a x => a.bare = x.tree := by
  refine .choose step_starts fun w q hq => ?_
  unfold steps at hq
  -- one case for each keyword, in the order of the grammar
  split at hq
  all_goals first
    | obtain rfl := Option.some.inj hq
    | exact absurd hq.symm (Option.some_ne_none q)
  · refine .one .print (fun _ => decides_string) (fun e ts h => ?_) (fun _ => rfl)
      fun _ _ => congrArg Step.print
    cases e <;> simp [Phrase.Step.tokens] at h ⊢
  · refine .one .println (fun _ => decides_string) (fun e ts h => ?_) (fun _ => rfl)
      fun _ _ => congrArg Step.println
    cases e <;> simp [Phrase.Step.tokens] at h ⊢
  · refine .alone .look (fun e ts h => ?_) rfl rfl
    cases e <;> simp [Phrase.Step.tokens] at h ⊢
  · refine .alone .inventory (fun e ts h => ?_) rfl rfl
    cases e <;> simp [Phrase.Step.tokens] at h ⊢
  · refine .alone .quit (fun e ts h => ?_) rfl rfl
    cases e <;> simp [Phrase.Step.tokens] at h ⊢
  · refine .intro way (Sum.elim .goWord .go) (fun e ts h => ?_) (fun x => ?_) fun c _ =>
      decides_way (fun _ _ => congrArg Step.goWord) fun _ => rfl
    · cases e <;> simp [Phrase.Step.tokens, Sum.exists] at h ⊢
    · cases x <;> rfl
  · refine .one .goto (fun _ => decides_name) (fun e ts h => ?_) (fun _ => rfl)
      fun _ _ => congrArg Step.goto
    cases e <;> simp [Phrase.Step.tokens] at h ⊢
  · refine .one .get (fun _ => decides_name) (fun e ts h => ?_) (fun _ => rfl)
      fun _ _ => congrArg Step.get
    cases e <;> simp [Phrase.Step.tokens] at h ⊢
  · refine .one .drop (fun _ => decides_name) (fun e ts h => ?_) (fun _ => rfl)
      fun _ _ => congrArg Step.drop
    cases e <;> simp [Phrase.Step.tokens] at h ⊢
  · refine .intro (both (fun x : Phrase.Name => [x.token]) whereto) (fun x => put x.1 x.2)
      (fun e ts h => ?_) (fun x => ?_) fun c _ => ?_
    · cases e <;> simp [Phrase.Step.tokens] at h ⊢
      case putHere item => exact ⟨item, none, rfl⟩
      case put item place => exact ⟨item, some place, rfl⟩
    · obtain ⟨item, _ | place⟩ := x <;> rfl
    · exact decides_name.seq fun item x c' hitem _ => decides_putSteps hitem c' (Nat.le_refl _)
  · refine .intro (both (fun x : Phrase.Name => [x.token]) fun y : Phrase.Name => [y.token])
      (fun x => .swap x.1 x.2) (fun e ts h => ?_) (fun _ => rfl) fun c _ => ?_
    · cases e <;> simp [Phrase.Step.tokens] at h ⊢
    · refine decides_name.seq fun a x c' ha _ => decides_name.result fun b y hb => ⟨_, rfl, ?_⟩
      rw [Step.bare, ha, hb]
      rfl
  · refine .one .destroy (fun _ => decides_name) (fun e ts h => ?_) (fun _ => rfl)
      fun _ _ => congrArg Step.destroy
    cases e <;> simp [Phrase.Step.tokens] at h ⊢
  · exact .deeper decides_flagSteps
  · exact .deeper decides_counterSteps
  · exact .deeper decides_stringSteps

/-! ## Clauses -/

theorem free_isInteger_step (x : Phrase.Step) (r : List Token) :
    Free isInteger (x.tokens ++ r) := by
  obtain ⟨w, ts, hx, -⟩ := step_starts x
  rw [hx]
  exact Free.cons.2 rfl

theorem decides_steps :
    DecidesAt (many (Keywords.starts steps) (spanned (choose steps)))
      (fun xs => xs.flatMap Phrase.Step.tokens)
      (fun r => Free isInteger r ∧ Free (Keywords.starts steps) r)
      (fun as (xs : List Phrase.Step) => Step.bareAll as = xs.map fun x => unplaced x.tree) c := by
  refine (DecidesAt.manyChosen decides_step step_starts free_isInteger_step fun _ => id).imp ?_
  intro as xs h
  exact map_eq_of_forall₂ (h.imp fun _ _ => congrArg unplaced)

theorem decides_clause :
    Decides n clause Phrase.Clause.tokens
      (fun r => Free isInteger r ∧ Free (Keywords.starts steps) r)
      fun a x => Step.bareAll a = x.tree := by
  intro c _
  have hparts : DecidesAt clause
      (fun x => .word "then" :: both Phrase.Step.tokens (fun xs => xs.flatMap Phrase.Step.tokens) x)
      (fun r => Free isInteger r ∧ Free (Keywords.starts steps) r)
      (fun a x => Step.bareAll a = (Phrase.Clause.mk x.1 x.2).tree) c := by
    refine .skip ?_
    intro c' _
    have hfirst := (decides_step c' (Nat.le_refl _)).node
    refine hfirst.andMany (fun _ _ _ => decides_steps) free_isInteger_step (fun _ => And.left) ?_
    intro first x others xs hx hxs
    rw [Step.bareAll, List.map_cons, ← Step.bareAll, hxs, hx]
    rfl
  exact hparts.rename (fun x => ⟨x.1, x.2⟩) (fun x => (x.first, x.others)) (fun _ => rfl)
    (fun _ => rfl) fun _ _ => id

end Grammar

end Script
end TextAdventure
