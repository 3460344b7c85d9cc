/-
Declarations are read as the grammar has them.

A declaration ends where another begins, or at the end of the script.
-/
import TextAdventure.Proofs.Syntax.Rules

namespace TextAdventure
namespace Script
namespace Grammar

open Reader

variable {n : Nat} {c : Cursor}

/-! ## Rooms -/

theorem decides_description :
    DecidesAt description (Phrase.optional fun s => [.string s]) (Free startsString) (· = ·) c := by
  refine .peek ?_
  split
  · next s hhead =>
    refine .narrow (g := some) (.map (decides_string.imp fun _ _ => congrArg some)) ?_ fun _ => rfl
    intro e r hr hr'
    cases e with
    | none =>
      obtain rfl : _ = r := hr
      exact absurd (hr' _ hhead) nofun
    | some s => exact ⟨s, rfl⟩
  · next hother =>
    refine .pure (d := none) rfl ?_ rfl
    intro e r hr _
    cases e with
    | none => rfl
    | some s => exact absurd (hr ▸ rfl) (hother s)

/-- The target of an exit, after its arrow. -/
theorem decides_target {direction : Spanned String} :
    DecidesAt (do
        if ← nextIs (.word "self") then
          keyword "self"
          return ExitClause.mk direction none
        else return ExitClause.mk direction (some (← name)))
      (fun t : Phrase.Target => [t.token]) (Free (· == .arrow))
      (fun a t => a.bare = ⟨direction.bare, t.tree?⟩) c := by
  refine .nextIs ?_ ?_
  · intro hhead
    refine .sole .self rfl rfl ?_
    intro e r hr _
    rw [hr] at hhead
    cases e with
    | self => rfl
    | room x => exact absurd (Option.some.inj hhead) (token_ne_word (by decide))
  · intro hhead
    refine .narrow (g := .room) (decides_name.result ?_) ?_ fun _ => rfl
    · intro a x hx
      refine ⟨_, rfl, ?_⟩
      rw [ExitClause.bare, Option.map_some, hx]
      rfl
    · intro e r hr _
      cases e with
      | self => exact absurd (hr ▸ rfl) hhead
      | room x => exact ⟨x, rfl⟩

theorem decides_exitClause :
    Decides n exitClause Phrase.Exit.tokens (Free (· == .arrow)) fun a x => a.bare = x.tree := by
  intro c _
  have hparts : DecidesAt exitClause
      (fun x => .word "exit" :: both (fun w => [.word w])
        (Phrase.optional fun t : Phrase.Target => [.arrow, t.token]) x)
      (Free (· == .arrow)) (fun a x => a.bare = (Phrase.Exit.mk x.1 x.2).tree) c := by
    refine .skip ?_
    intro c' _
    refine decides_placedWord.seq ?_
    intro direction w c'' hdirection _
    refine .nextIs ?_ ?_
    · intro hhead
      refine .narrow (g := some) (.skip fun _ _ => decides_target.imp ?_) ?_ fun _ => rfl
      · intro a t h
        rw [h, hdirection]
        rfl
      · intro e r hr hr'
        cases e with
        | none =>
          obtain rfl : _ = r := hr
          exact absurd (hr' _ hhead) (by decide)
        | some t => exact ⟨t, rfl⟩
    · intro hhead
      refine .pure (d := none) ?_ ?_ rfl
      · rw [ExitClause.bare, hdirection]
        rfl
      · intro e r hr _
        cases e with
        | none => rfl
        | some t => exact absurd (hr ▸ rfl) hhead
  exact hparts.rename (fun x => ⟨x.1, x.2⟩) (fun x => (x.direction, x.target)) (fun _ => rfl)
    (fun _ => rfl) fun _ _ => id

theorem decides_exits :
    DecidesAt (many (· == .word "exit") exitClause) (fun xs => xs.flatMap Phrase.Exit.tokens)
      (fun r => Free startsString r ∧ Free (· == .arrow) r ∧ Free (· == .word "exit") r)
      (fun as (xs : List Phrase.Exit) => as.map ExitClause.bare = xs.map Phrase.Exit.tree) c := by
  refine (DecidesAt.many decides_exitClause ?_ (fun _ _ => Free.cons.2 rfl) fun _ => And.right).imp
    fun _ _ => map_eq_of_forall₂
  intro x
  exact ⟨.word "exit", _, rfl, rfl⟩

theorem decides_roomDecl :
    Decides n roomDecl Phrase.Room.tokens
      (fun r => Free startsString r ∧ Free (· == .arrow) r ∧ Free (· == .word "exit") r)
      fun a x => a.bare = x.tree := by
  intro c _
  have hparts : DecidesAt roomDecl
      (both (fun x : Phrase.Name => [x.token]) (both (Phrase.optional fun s => [.string s])
        fun xs => xs.flatMap Phrase.Exit.tokens))
      (fun r => Free startsString r ∧ Free (· == .arrow) r ∧ Free (· == .word "exit") r)
      (fun a x => a.bare = (Phrase.Room.mk x.1 x.2.1 x.2.2).tree) c := by
    refine decides_name.seq ?_
    intro name x c' hname _
    refine decides_description.andMany (fun _ _ _ => decides_exits) (fun _ _ => Free.cons.2 rfl)
      (fun _ => And.left) ?_
    intro description d exits xs hdescription hexits
    rw [RoomDecl.bare, hname, hdescription, hexits]
    rfl
  exact hparts.rename (fun x => ⟨x.1, x.2.1, x.2.2⟩) (fun x => (x.name, x.description, x.exits))
    (fun _ => rfl) (fun _ => rfl) fun _ _ => id

/-! ## Items and words -/

theorem itemClause_starts (x : Phrase.ItemClause) :
    ∃ w ts, x.tokens = .word w :: ts ∧ (itemClauses w).isSome = true := by
  cases x <;> exact ⟨_, _, rfl, rfl⟩

theorem decides_itemClause :
    Decides n (choose itemClauses) Phrase.ItemClause.tokens (fun _ => True)
      fun a x => a.bare = x.tree := by
  refine .choose itemClause_starts fun w q hq => ?_
  unfold itemClauses at hq
  split at hq
  all_goals first
    | obtain rfl := Option.some.inj hq
    | exact absurd hq.symm (Option.some_ne_none q)
  · refine .one .otherName (fun _ => decides_string) (fun e ts h => ?_) (fun _ => rfl)
      fun _ _ => congrArg ItemClause.otherName
    cases e <;> simp [Phrase.ItemClause.tokens] at h ⊢
  · refine .alone .portable (fun e ts h => ?_) rfl rfl
    cases e <;> simp [Phrase.ItemClause.tokens] at h ⊢
  · refine .one .inPlace (fun _ => decides_place) (fun e ts h => ?_) (fun _ => rfl)
      fun _ _ => congrArg ItemClause.inPlace
    cases e <;> simp [Phrase.ItemClause.tokens] at h ⊢

theorem decides_itemClauses :
    DecidesAt (many (Keywords.starts itemClauses) (spanned (choose itemClauses)))
      (fun xs => xs.flatMap Phrase.ItemClause.tokens)
      (fun r => Free startsString r ∧ Free (Keywords.starts itemClauses) r)
      (fun as (xs : List Phrase.ItemClause) =>
        as.map (fun a => unplaced a.node.bare) = xs.map fun x => unplaced x.tree) c := by
  refine (DecidesAt.manyChosen decides_itemClause itemClause_starts (fun _ _ => trivial)
    fun r hr => ⟨trivial, hr.2⟩).imp ?_
  intro as xs h
  exact map_eq_of_forall₂ (h.imp fun _ _ => congrArg unplaced)

theorem decides_itemDecl :
    Decides n itemDecl Phrase.Item.tokens
      (fun r => Free startsString r ∧ Free (Keywords.starts itemClauses) r)
      fun a x => a.bare = x.tree := by
  intro c _
  have hparts : DecidesAt itemDecl
      (both (fun x : Phrase.Name => [x.token]) (both (Phrase.optional fun s => [.string s])
        fun xs => xs.flatMap Phrase.ItemClause.tokens))
      (fun r => Free startsString r ∧ Free (Keywords.starts itemClauses) r)
      (fun a x => a.bare = (Phrase.Item.mk x.1 x.2.1 x.2.2).tree) c := by
    refine decides_name.seq ?_
    intro name x c' hname _
    refine decides_description.andMany (fun _ _ _ => decides_itemClauses) ?_ (fun _ => And.left) ?_
    · intro x r
      obtain ⟨w, ts, hx, -⟩ := itemClause_starts x
      rw [hx]
      exact Free.cons.2 rfl
    · intro description d clauses xs hdescription hclauses
      rw [ItemDecl.bare, hname, hdescription, hclauses]
      rfl
  exact hparts.rename (fun x => ⟨x.1, x.2.1, x.2.2⟩) (fun x => (x.name, x.description, x.clauses))
    (fun _ => rfl) (fun _ => rfl) fun _ _ => id

theorem decides_strings :
    DecidesAt (many startsString string) (fun ss => ss.flatMap fun s => [.string s])
      (Free startsString) (· = ·) c := by
  have hstring : Decides c.ahead.length string (fun s => [.string s]) (fun _ => True) (· = ·) :=
    fun _ _ => decides_string
  refine (DecidesAt.many hstring ?_ (fun _ _ => trivial) fun r hr => ⟨trivial, hr⟩).imp ?_
  · intro s
    exact ⟨.string s, [], rfl, rfl⟩
  · intro as ss h
    rwa [List.forall₂_eq_eq_eq] at h

theorem decides_wordDecl :
    Decides n wordDecl Phrase.Word.tokens (Free startsString) fun a x => a.bare = x.tree := by
  intro c _
  have hparts : DecidesAt wordDecl
      (both (fun w => [.word w]) fun ss => ss.flatMap fun s => [.string s]) (Free startsString)
      (fun a x => a.bare = (Phrase.Word.mk x.1 x.2).tree) c := by
    refine decides_placedWord.seq ?_
    intro name w c' hname _
    refine decides_strings.result ?_
    intro synonyms ss h
    refine ⟨_, rfl, ?_⟩
    rw [WordDecl.bare, hname, h]
    rfl
  refine hparts.rename (fun x => ⟨x.1, x.2⟩) (fun x => (x.name, x.synonyms))
    (fun _ => rfl) ?_ fun _ _ => id
  intro x
  rw [Phrase.Word.tokens, List.map_eq_flatMap]
  rfl

/-! ## Actions -/

def noun : Reader (Option (Spanned Pattern)) := do
  match ← peek with
  | some t => if startsPattern t then some <$> pattern else Reader.pure none
  | none => Reader.pure none

theorem actionDecl_eq :
    actionDecl = (do
      let verb ← pattern
      let noun ← noun
      let body ← ruleBody
      return ActionDecl.mk verb noun body) := by
  refine congrArg (Reader.bind pattern) (funext fun verb => funext fun c => ?_)
  obtain ⟨stop, ahead⟩ := c
  cases ahead with
  | nil => rfl
  | cons t rest =>
    cases h : startsPattern t.node <;>
      simp only [noun, Bind.bind, Reader.bind, peek, List.head?_cons, Option.map_some, h,
        Bool.false_eq_true, if_true, if_false]

theorem pattern_starts (x : Phrase.Pattern) :
    ∃ t ts, x.tokens = t :: ts ∧ startsPattern t = true := by
  cases x with
  | word w => exact ⟨w.token, [], rfl, by simp [startsPattern, Phrase.PatternWord.token, w.allowed]⟩
  | any => exact ⟨.word "any", [], rfl, by decide⟩
  | none => exact ⟨.word "none", [], rfl, by decide⟩
  | list first others => exact ⟨.leftBracket, _, rfl, rfl⟩

theorem body_starts (x : Phrase.Body) :
    ∃ t ts, x.tokens = t :: ts ∧ startsPattern t = false := by
  obtain ⟨_ | guards, first, others⟩ := x
  · exact ⟨.word "then", _, rfl, by decide⟩
  · exact ⟨.word "when", _, rfl, by decide⟩

theorem decides_noNoun (h : Free startsPattern c.values) :
    DecidesAt (Reader.pure none) (Phrase.optional Phrase.Pattern.tokens) (Free startsPattern)
      (fun a x => a.map Spanned.bare = x.map fun x => unplaced x.tree) c := by
  refine .pure (d := none) rfl ?_ rfl
  intro e r hr _
  cases e with
  | none => rfl
  | some x =>
    obtain ⟨t, ts, hx, ht⟩ := pattern_starts x
    rw [hr, Phrase.optional, hx, List.cons_append, Free.cons, ht] at h
    exact absurd h.symm Bool.false_ne_true

theorem decides_noun :
    DecidesAt noun (Phrase.optional Phrase.Pattern.tokens) (Free startsPattern)
      (fun a x => a.map Spanned.bare = x.map fun x => unplaced x.tree) c := by
  refine .peek ?_
  cases hhead : c.values.head? with
  | none =>
    refine decides_noNoun ?_
    intro t ht
    exact absurd (ht.symm.trans hhead) (Option.some_ne_none t)
  | some t =>
    show DecidesAt (if startsPattern t then some <$> pattern else Reader.pure none) _ _ _ _
    by_cases hstart : startsPattern t = true
    · rw [if_pos hstart]
      refine .narrow (g := some) (.map (decides_pattern.imp fun _ _ => congrArg some)) ?_
        fun _ => rfl
      intro e r hr hr'
      cases e with
      | none =>
        obtain rfl : _ = r := hr
        have hother := hr' t hhead
        rw [hstart] at hother
        exact absurd hother.symm Bool.false_ne_true
      | some x => exact ⟨x, rfl⟩
    · rw [if_neg hstart]
      refine decides_noNoun ?_
      intro t' ht'
      obtain rfl := Option.some.inj (hhead.symm.trans ht')
      exact Bool.eq_false_iff.2 hstart

theorem decides_actionDecl :
    Decides n actionDecl Phrase.Action.tokens (Free prolongs) fun a x => a.bare = x.tree := by
  intro c _
  have hparts : DecidesAt actionDecl
      (both Phrase.Pattern.tokens (both (Phrase.optional Phrase.Pattern.tokens) Phrase.Body.tokens))
      (Free prolongs) (fun a x => a.bare = (Phrase.Action.mk x.1 x.2.1 x.2.2).tree) c := by
    rw [actionDecl_eq]
    refine decides_pattern.seq ?_
    intro verb x c' hverb _
    refine decides_noun.bind ?_ ?_
    · intro noun y c'' hnoun _
      refine (decides_ruleBody c'' (Nat.le_refl _)).result ?_
      intro body b hbody
      refine ⟨_, rfl, ?_⟩
      rw [ActionDecl.bare, hverb, hnoun, hbody]
      rfl
    · intro b r _
      obtain ⟨t, ts, hb, ht⟩ := body_starts b
      rw [hb]
      exact Free.cons.2 ht
  exact hparts.rename (fun x => ⟨x.1, x.2.1, x.2.2⟩) (fun x => (x.verb, x.noun, x.body))
    (fun _ => rfl) (fun _ => rfl) fun _ _ => id

end Grammar

end Script
end TextAdventure
