/-
Conditions are read as the grammar has them.

A condition ends where no word `or` follows.  It never has to end before an
integer, so that `word` and an integer are always the position of a word.
-/
import TextAdventure.Proofs.Syntax.Names

namespace TextAdventure
namespace Script
namespace Grammar

open Reader

variable {n : Nat} {ok : List Token → Prop} {c : Cursor}

/-! ## Directions -/

def isInteger : Token → Bool
  | .integer _ => true
  | _ => false

/-- What is named after `exit` or `go`: the word at a position, or a direction. -/
def way : Int64 ⊕ String → List Token
  | .inl position => [.word "word", .integer position]
  | .inr direction => [.word direction]

theorem wordPositionAhead_eq (c : Cursor) :
    ∃ b, wordPositionAhead c = .done b c ∧
      (b = true ↔ ∃ i ts, c.values = .word "word" :: .integer i :: ts) := by
  rw [wordPositionAhead]
  split
  · next i _ rest hahead =>
    refine ⟨true, rfl, iff_of_true rfl ⟨i, rest.map (·.node), ?_⟩⟩
    rw [Cursor.values, hahead, List.map_cons, List.map_cons]
  · next hother =>
    refine ⟨false, rfl, iff_of_false Bool.false_ne_true ?_⟩
    rintro ⟨i, ts, hvalues⟩
    obtain ⟨stop, _ | ⟨⟨_, s₁⟩, _ | ⟨⟨_, s₂⟩, rest⟩⟩⟩ := c
    · exact absurd hvalues.symm (List.cons_ne_nil _ _)
    · exact absurd (List.cons.inj hvalues).2.symm (List.cons_ne_nil _ _)
    · obtain ⟨rfl, htail⟩ := List.cons.inj hvalues
      obtain ⟨rfl, -⟩ := List.cons.inj htail
      exact hother s₁ i s₂ rest rfl

theorem decides_way {α : Type} {R : α → Int64 ⊕ String → Prop} {f : Spanned Int64 → α}
    {g : String → α} (hf : ∀ a i, a.bare = unplaced i → R (f a) (.inl i))
    (hg : ∀ w, R (g w) (.inr w)) :
    DecidesAt (do
        if ← wordPositionAhead then
          keyword "word"
          f <$> spanned integer
        else g <$> identifier)
      way (Free isInteger) R c := by
  obtain ⟨b, hrun, hb⟩ := wordPositionAhead_eq c
  have hposition : b = true → DecidesAt (do
      keyword "word"
      f <$> spanned integer) way (Free isInteger) R c := by
    intro hb'
    obtain ⟨i, ts, hvalues⟩ := hb.1 hb'
    refine .narrow (g := .inl) (.skip fun c' _ => .map (decides_position.imp hf)) ?_ fun _ => rfl
    intro e r hr hfree
    cases e with
    | inl position => exact ⟨position, rfl⟩
    | inr direction =>
      -- the direction would be `word` with an integer behind it
      rw [hvalues] at hr
      obtain rfl : .integer i :: ts = r := (List.cons.inj hr).2
      exact absurd (Free.cons.1 hfree) nofun
  have hdirection : b = false → DecidesAt (g <$> identifier) way (Free isInteger) R c := by
    intro hb'
    refine .narrow (g := .inr) (.map (decides_identifier.imp fun a w hw => hw ▸ hg a)) ?_
      fun _ => rfl
    intro e r hr _
    cases e with
    | inl position =>
      rw [hb.2 ⟨position, r, hr⟩] at hb'
      exact absurd hb'.symm Bool.false_ne_true
    | inr direction => exact ⟨direction, rfl⟩
  cases b with
  | false => exact .look hrun (hdirection rfl)
  | true => exact .look hrun (hposition rfl)

/-! ## Single conditions -/

theorem atom_starts (x : Phrase.Atom) :
    ∃ w ts, x.tokens = .word w :: ts ∧ (atoms w).isSome = true := by
  cases x <;> exact ⟨_, _, rfl, rfl⟩

theorem decides_atom :
    Decides n (choose atoms) Phrase.Atom.tokens (Free isInteger) (fun a x => a.bare = x.tree) := by
  refine .choose atom_starts fun w q hq => ?_
  unfold atoms at hq
  -- one case for each keyword, in the order of the grammar
  split at hq
  all_goals first
    | obtain rfl := Option.some.inj hq
    | exact absurd hq.symm (Option.some_ne_none q)
  · refine .intro (both (fun i => [.integer i]) Phrase.Pattern.tokens) (fun x => .word x.1 x.2)
      (fun e ts h => ?_) (fun _ => rfl) fun c _ => ?_
    · cases e <;> simp [Phrase.Atom.tokens] at h ⊢
    · refine decides_position.seq fun position i c' hi _ => ?_
      refine decides_pattern.result fun pattern x hx => ⟨_, rfl, ?_⟩
      rw [Atom.bare, hi, hx]
      rfl
  · refine .one .unrecognized (fun _ => decides_position) (fun e ts h => ?_) (fun _ => rfl)
      fun _ _ => congrArg Atom.unrecognized
    cases e <;> simp [Phrase.Atom.tokens] at h ⊢
  · refine .one .here (fun _ => decides_name) (fun e ts h => ?_) (fun _ => rfl)
      fun _ _ => congrArg Atom.here
    cases e <;> simp [Phrase.Atom.tokens] at h ⊢
  · refine .one .carrying (fun _ => decides_name) (fun e ts h => ?_) (fun _ => rfl)
      fun _ _ => congrArg Atom.carrying
    cases e <;> simp [Phrase.Atom.tokens] at h ⊢
  · refine .one .present (fun _ => decides_name) (fun e ts h => ?_) (fun _ => rfl)
      fun _ _ => congrArg Atom.present
    cases e <;> simp [Phrase.Atom.tokens] at h ⊢
  · refine .one .inRoom (fun _ => decides_name) (fun e ts h => ?_) (fun _ => rfl)
      fun _ _ => congrArg Atom.inRoom
    cases e <;> simp [Phrase.Atom.tokens] at h ⊢
  · refine .intro way (Sum.elim .exitWord .exit) (fun e ts h => ?_) (fun x => ?_) fun c _ =>
      decides_way (fun _ _ => congrArg Atom.exitWord) fun _ => rfl
    · cases e <;> simp [Phrase.Atom.tokens, Sum.exists] at h ⊢
    · cases x <;> rfl
  · refine .one .random (fun _ => decides_position) (fun e ts h => ?_) (fun _ => rfl)
      fun _ _ => congrArg Atom.random
    cases e <;> simp [Phrase.Atom.tokens] at h ⊢
  · refine .one .moved (fun _ => decides_name) (fun e ts h => ?_) (fun _ => rfl)
      fun _ _ => congrArg Atom.moved
    cases e <;> simp [Phrase.Atom.tokens] at h ⊢
  · refine .one .inPlay (fun _ => decides_name) (fun e ts h => ?_) (fun _ => rfl)
      fun _ _ => congrArg Atom.inPlay
    cases e <;> simp [Phrase.Atom.tokens] at h ⊢
  · refine .one .flag (fun _ => decides_identifier) (fun e ts h => ?_) (fun _ => rfl)
      fun _ _ => congrArg Atom.flag
    cases e <;> simp [Phrase.Atom.tokens] at h ⊢
  · refine .intro (both (fun w => [.word w]) (both (fun x => [.compare x]) fun i => [.integer i]))
      (fun x => .counter x.1 x.2.1 x.2.2) (fun e ts h => ?_) (fun _ => rfl) fun c _ => ?_
    · cases e <;> simp [Phrase.Atom.tokens] at h ⊢
    · refine decides_identifier.seq fun _ name c' hname _ => ?_
      refine decides_comparison.seq fun _ comparison c'' hcomparison _ => ?_
      refine decides_integer.result fun _ value hvalue => ⟨_, rfl, ?_⟩
      rw [hname, hcomparison, hvalue]
      rfl
  · refine .intro (both (fun w => [.word w]) fun s => [.compare .eq, .string s])
      (fun x => .string x.1 x.2) (fun e ts h => ?_) (fun _ => rfl) fun c _ => ?_
    · cases e <;> simp [Phrase.Atom.tokens] at h ⊢
    · refine decides_identifier.seq fun _ name c' hname _ => .skip fun c'' _ => ?_
      refine decides_string.result fun _ value hvalue => ⟨_, rfl, ?_⟩
      rw [hname, hvalue]
      rfl
  · refine .one .times (fun _ => decides_position) (fun e ts h => ?_) (fun _ => rfl)
      fun _ _ => congrArg Atom.times
    cases e <;> simp [Phrase.Atom.tokens] at h ⊢
  · refine .alone .always (fun e ts h => ?_) rfl rfl
    cases e <;> simp [Phrase.Atom.tokens] at h ⊢

/-! ## Conditions within conditions -/

/-- What goes on with the last part of a condition. -/
def goesOn (t : Token) : Bool := isInteger t || t == .word "or"

theorem unary_starts (x : Phrase.Unary) :
    ∃ t ts, x.tokens = t :: ts ∧ startsGuard t = true := by
  cases x with
  | atom a =>
    obtain ⟨w, ts, ha, hw⟩ := atom_starts a
    refine ⟨.word w, ts, ha, ?_⟩
    rw [startsGuard, hw, Bool.or_true]
  | not inner => exact ⟨.word "not", inner.tokens, rfl, rfl⟩
  | group first others => exact ⟨.leftParen, _, rfl, rfl⟩

theorem cond_starts (x : Phrase.Cond) :
    ∃ t ts, x.tokens = t :: ts ∧ startsGuard t = true := by
  obtain ⟨first, others⟩ := x
  obtain ⟨t, ts, hfirst, ht⟩ := unary_starts first
  exact ⟨t, ts ++ Phrase.Unary.tokensAll others, by rw [Phrase.Cond.tokens, hfirst]; rfl, ht⟩

theorem goesOn_of_isInteger {t : Token} (ht : isInteger t = true) : goesOn t = true := by
  rw [goesOn, ht, Bool.true_or]

theorem goesOn_of_or {t : Token} (ht : (t == .word "or") = true) : goesOn t = true := by
  rw [goesOn, ht, Bool.or_true]

theorem decides_unaries {unary : Reader Guard}
    (h : Decides n unary Phrase.Unary.tokens (Free isInteger) fun g x => g.bare = x.tree)
    (hc : c.ahead.length ≤ n) :
    DecidesAt (many (· == .word "or") do
        keyword "or"
        unary)
      (fun us => us.flatMap fun u => .word "or" :: u.tokens) (Free goesOn)
      (fun gs us => Guard.bareAll gs = Phrase.Unary.treeAll us) c := by
  have hread := DecidesAt.others h hc (fun _ => Free.cons.2 rfl) fun r (hr : Free goesOn r) =>
    ⟨hr.mono fun _ => goesOn_of_isInteger, hr.mono fun _ => goesOn_of_or⟩
  refine hread.imp ?_
  intro gs us hgs
  rw [Guard.bareAll_eq_map, Phrase.Unary.treeAll_eq_map, map_eq_of_forall₂ hgs]

section

variable {first second : Guard} {others : List Guard} {span : Span}

theorem bare_alone {u : Phrase.Unary} {us : List Phrase.Unary} (hfirst : first.bare = u.tree)
    (hothers : Guard.bareAll [] = Phrase.Unary.treeAll us) :
    first.bare = (Phrase.Cond.mk u us).tree := by
  cases us with
  | nil => exact hfirst
  | cons u' us => exact absurd hothers.symm (List.cons_ne_nil _ _)

theorem bare_or {u : Phrase.Unary} {us : List Phrase.Unary} (hfirst : first.bare = u.tree)
    (hothers : Guard.bareAll (second :: others) = Phrase.Unary.treeAll us) :
    (Guard.or (first :: second :: others) span).bare = (Phrase.Cond.mk u us).tree := by
  cases us with
  | nil => exact absurd hothers (List.cons_ne_nil _ _)
  | cons u' us =>
    rw [Guard.bare, Guard.bareAll, hothers, hfirst]
    rfl

/-- A single condition in parentheses is that condition. -/
theorem bare_parenthesised {x : Phrase.Cond} {xs : List Phrase.Cond}
    (hfirst : first.bare = x.tree) (hothers : Guard.bareAll [] = Phrase.Cond.treeAll xs) :
    (first.moveTo span).bare = (Phrase.Unary.group x xs).tree := by
  cases xs with
  | nil => exact (Guard.bare_moveTo span first).trans hfirst
  | cons x' xs => exact absurd hothers.symm (List.cons_ne_nil _ _)

theorem bare_and {x : Phrase.Cond} {xs : List Phrase.Cond} (hfirst : first.bare = x.tree)
    (hothers : Guard.bareAll (second :: others) = Phrase.Cond.treeAll xs) :
    (Guard.and (first :: second :: others) span).bare = (Phrase.Unary.group x xs).tree := by
  cases xs with
  | nil => exact absurd hothers (List.cons_ne_nil _ _)
  | cons x' xs =>
    rw [Guard.bare, Guard.bareAll, hothers, hfirst]
    rfl

end

theorem decides_disjunction {unary : Reader Guard}
    (h : Decides n unary Phrase.Unary.tokens (Free isInteger) fun g x => g.bare = x.tree) :
    Decides n (disjunction unary) Phrase.Cond.tokens (Free goesOn)
      fun g x => g.bare = x.tree := by
  intro c hc
  have hparts : DecidesAt (do
        let first ← unary
        let others ← many (· == .word "or") do
          keyword "or"
          unary
        return (first, others))
      (both Phrase.Unary.tokens fun us => us.flatMap fun u => .word "or" :: u.tokens)
      (Free goesOn)
      (fun gs x => gs.1.bare = x.1.tree ∧ Guard.bareAll gs.2 = Phrase.Unary.treeAll x.2) c := by
    refine (h c hc).andMany (fun u c' hread => decides_unaries h ?_) ?_ ?_ ?_
    · exact Nat.le_trans (length_le_of_values hread) hc
    · intro u r
      exact Free.cons.2 rfl
    · intro r hr
      exact hr.mono fun _ => goesOn_of_isInteger
    · intro first u others us hfirst hothers
      exact ⟨hfirst, hothers⟩
  have hread : DecidesAt (disjunction unary)
      (both Phrase.Unary.tokens fun us => us.flatMap fun u => .word "or" :: u.tokens)
      (Free goesOn) (fun g x => g.bare = (Phrase.Cond.mk x.1 x.2).tree) c := by
    refine hparts.node.result ?_
    rintro ⟨⟨first, others⟩, span⟩ ⟨u, us⟩ ⟨hfirst, hothers⟩
    cases others with
    | nil => exact ⟨first, rfl, bare_alone hfirst hothers⟩
    | cons second others => exact ⟨_, rfl, bare_or hfirst hothers⟩
  refine hread.narrow (g := fun x : Phrase.Unary × List Phrase.Unary => .mk x.1 x.2) ?_ ?_
  · intro e r _ _
    cases e with
    | mk first others => exact ⟨(first, others), rfl⟩
  · intro x
    rw [Phrase.Cond.tokens, Phrase.Unary.tokensAll_eq_flatMap]
    rfl

theorem decides_conds {inner : Reader Guard}
    (h : Decides n inner Phrase.Cond.tokens (Free goesOn) fun g x => g.bare = x.tree)
    (hc : c.ahead.length ≤ n) :
    DecidesAt (many (· == .word "and") do
        keyword "and"
        inner)
      (fun xs => xs.flatMap fun x => .word "and" :: x.tokens)
      (fun r => Free goesOn r ∧ Free (· == .word "and") r)
      (fun gs xs => Guard.bareAll gs = Phrase.Cond.treeAll xs) c := by
  refine (DecidesAt.others h hc (fun _ => Free.cons.2 rfl) fun r => id).imp ?_
  intro gs xs hgs
  rw [Guard.bareAll_eq_map, Phrase.Cond.treeAll_eq_map, map_eq_of_forall₂ hgs]

theorem decides_group {inner : Reader Guard}
    (h : Decides n inner Phrase.Cond.tokens (Free goesOn) fun g x => g.bare = x.tree)
    (hc : c.ahead.length ≤ n + 1) :
    DecidesAt (group inner)
      (fun x : Phrase.Cond × List Phrase.Cond => (Phrase.Unary.group x.1 x.2).tokens) ok
      (fun g x => g.bare = (Phrase.Unary.group x.1 x.2).tree) c := by
  have hparts : DecidesAt (do
        expect .leftParen
        let first ← inner
        let others ← many (· == .word "and") do
          keyword "and"
          inner
        expect .rightParen
        return (first, others))
      (fun x => .leftParen :: both Phrase.Cond.tokens
        (fun xs => (xs.flatMap fun x => .word "and" :: x.tokens) ++ [.rightParen]) x) ok
      (fun gs x => gs.1.bare = x.1.tree ∧ Guard.bareAll gs.2 = Phrase.Cond.treeAll x.2) c := by
    refine .skip ?_
    intro c' hread
    have hc' : c'.ahead.length ≤ n := by
      have hshorter := length_lt_of_values hread
      omega
    refine (h c' hc').bind ?_ ?_
    · intro first x c'' hfirst hread'
      have hothers := decides_conds h (Nat.le_trans (length_le_of_values hread') hc')
      refine .close (hothers.imp ?_) ?_
      · intro others xs hxs
        exact ⟨hfirst, hxs⟩
      · intro r
        exact ⟨Free.cons.2 rfl, Free.cons.2 rfl⟩
    · intro xs r _
      rw [List.append_assoc]
      exact ok_flatMap (fun _ _ => Free.cons.2 rfl) (Free.cons.2 rfl) xs
  have hread : DecidesAt (group inner)
      (fun x => .leftParen :: both Phrase.Cond.tokens
        (fun xs => (xs.flatMap fun x => .word "and" :: x.tokens) ++ [.rightParen]) x) ok
      (fun g x => g.bare = (Phrase.Unary.group x.1 x.2).tree) c := by
    refine hparts.node.result ?_
    rintro ⟨⟨first, others⟩, span⟩ ⟨x, xs⟩ ⟨hfirst, hothers⟩
    cases others with
    | nil => exact ⟨_, rfl, bare_parenthesised hfirst hothers⟩
    | cons second others => exact ⟨_, rfl, bare_and hfirst hothers⟩
  refine hread.rename id id (fun _ => rfl) ?_ fun _ _ => id
  intro x
  rw [id, Phrase.Unary.tokens, Phrase.Cond.tokensAll_eq_flatMap]
  rfl

theorem decides_not {inner : Reader Guard}
    (h : Decides n inner Phrase.Unary.tokens (Free isInteger) fun g x => g.bare = x.tree)
    (hc : c.ahead.length ≤ n + 1) :
    DecidesAt (do
        let ⟨inner, span⟩ ← spanned do
          keyword "not"
          inner
        return Guard.not inner span)
      (fun x => (Phrase.Unary.not x).tokens) (Free isInteger)
      (fun g x => g.bare = (Phrase.Unary.not x).tree) c := by
  have hinner : DecidesAt (do
        keyword "not"
        inner)
      (fun x : Phrase.Unary => .word "not" :: x.tokens) (Free isInteger)
      (fun g x => g.bare = x.tree) c := by
    refine .skip ?_
    intro c' hread
    have hshorter := length_lt_of_values hread
    exact h c' (by omega)
  refine (hinner.node.result ?_).rename id id (fun _ => rfl) ?_ fun _ _ => id
  · intro g x hx
    refine ⟨_, rfl, ?_⟩
    rw [Guard.bare, hx, Phrase.Unary.tree, id]
  · intro x
    rw [id, Phrase.Unary.tokens]

theorem decides_single (hc : c.ahead.length ≤ n) :
    DecidesAt (do
        let ⟨atom, span⟩ ← spanned (choose atoms)
        return Guard.atom atom span)
      (fun a => (Phrase.Unary.atom a).tokens) (Free isInteger)
      (fun g a => g.bare = (Phrase.Unary.atom a).tree) c := by
  refine ((decides_atom c hc).node.result ?_).rename id id (fun _ => rfl) ?_ fun _ _ => id
  · intro a x hx
    refine ⟨_, rfl, ?_⟩
    rw [Guard.bare, hx, Phrase.Unary.tree, id]
  · intro x
    rw [id, Phrase.Unary.tokens]

/-- The first token of a condition tells of which kind it is. -/
theorem unary_cases (x : Phrase.Unary) (r : List Token) :
    (∃ inner, x = .not inner ∧ (x.tokens ++ r).head? = some (.word "not")) ∨
    (∃ first others, x = .group first others ∧ (x.tokens ++ r).head? = some .leftParen) ∨
    (∃ a w, x = .atom a ∧ (x.tokens ++ r).head? = some (.word w) ∧ w ≠ "not") := by
  cases x with
  | atom a =>
    obtain ⟨w, ts, ha, hw⟩ := atom_starts a
    refine .inr (.inr ⟨a, w, rfl, ?_, ?_⟩)
    · rw [Phrase.Unary.tokens, ha]
      rfl
    · rintro rfl
      exact absurd hw (by decide)
  | not inner => exact .inl ⟨inner, rfl, rfl⟩
  | group first others => exact .inr (.inl ⟨first, others, rfl, rfl⟩)

/-- The tokens that are left bound how deep a condition goes. -/
theorem decides_unary (depth : Nat) :
    Decides depth (unaryUpTo depth) Phrase.Unary.tokens (Free isInteger)
      fun g x => g.bare = x.tree := by
  induction depth with
  | zero =>
    intro c hc
    refine .inr ⟨c, rfl, ?_⟩
    intro x r hr _
    obtain ⟨t, ts, hx, -⟩ := unary_starts x
    have hlength := congrArg List.length hr
    rw [hx, length_values, List.length_append, List.length_cons] at hlength
    omega
  | succ depth ih =>
    intro c hc
    rw [unaryUpTo]
    refine .peek ?_
    split
    · next hhead =>
      refine (decides_not ih hc).narrow (g := .not) ?_ fun _ => rfl
      intro e r hr _
      rw [hr] at hhead
      obtain ⟨inner, rfl, -⟩ | ⟨_, _, -, he⟩ | ⟨_, w, -, he, hw⟩ := unary_cases e r
      · exact ⟨inner, rfl⟩
      · exact absurd (Option.some.inj (he.symm.trans hhead)) nofun
      · exact absurd (Token.word.inj (Option.some.inj (he.symm.trans hhead))) hw
    · next hhead =>
      refine (decides_group (decides_disjunction ih) hc).narrow
        (g := fun x : Phrase.Cond × List Phrase.Cond => .group x.1 x.2) ?_ fun _ => rfl
      intro e r hr _
      rw [hr] at hhead
      obtain ⟨_, -, he⟩ | ⟨first, others, rfl, -⟩ | ⟨_, w, -, he, -⟩ := unary_cases e r
      · exact absurd (Option.some.inj (he.symm.trans hhead)) nofun
      · exact ⟨(first, others), rfl⟩
      · exact absurd (Option.some.inj (he.symm.trans hhead)) nofun
    · next hnot hgroup =>
      refine (decides_single hc).narrow (g := .atom) ?_ fun _ => rfl
      intro e r hr _
      rw [hr] at hnot hgroup
      obtain ⟨_, -, he⟩ | ⟨_, _, -, he⟩ | ⟨a, w, rfl, -, -⟩ := unary_cases e r
      · exact absurd he hnot
      · exact absurd he hgroup
      · exact ⟨a, rfl⟩

theorem decides_guard :
    Decides n guard Phrase.Cond.tokens (Free goesOn) fun g x => g.bare = x.tree :=
  fun c _ => (decides_disjunction (decides_unary c.ahead.length) c (Nat.le_refl _)).congr rfl

end Grammar

end Script
end TextAdventure
