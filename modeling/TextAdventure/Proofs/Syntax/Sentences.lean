/-
Scripts are read as the grammar has them.
-/
import TextAdventure.Proofs.Syntax.Declarations

namespace TextAdventure
namespace Script
namespace Grammar

open Reader

variable {n : Nat} {c : Cursor}

/-! ## All declarations -/

theorem declaration_starts (x : Phrase.Declaration) :
    ∃ w ts, x.tokens = .word w :: ts ∧ (declarations w).isSome = true := by
  cases x <;> exact ⟨_, _, rfl, rfl⟩

/-- What no declaration begins with. -/
def withinDeclaration (t : Token) : Bool := !Keywords.starts declarations t

theorem starts_declarations {t : Token} (ht : Keywords.starts declarations t = true) :
    t ∈ ["room", "item", "word", "action", "occurs", "start"].map Token.word := by
  cases t with
  | word w =>
    refine List.mem_map_of_mem ?_
    have hw : (declarations w).isSome = true := ht
    unfold declarations at hw
    split at hw <;> simp at hw ⊢
  | _ => exact absurd ht Bool.false_ne_true

/-- The keywords of declarations go on with no phrase. -/
theorem free_of_withinDeclaration {bad : Token → Bool}
    (hbad : ∀ w ∈ ["room", "item", "word", "action", "occurs", "start"], bad (.word w) = false)
    {r : List Token} (hr : Free withinDeclaration r) : Free bad r := by
  refine hr.mono ?_
  intro t ht
  rw [withinDeclaration, Bool.not_eq_true']
  by_contra hstarts
  obtain ⟨w, hw, rfl⟩ := List.mem_map.1 (starts_declarations (Bool.not_eq_false _ ▸ hstarts))
  rw [hbad w hw] at ht
  exact absurd ht Bool.false_ne_true

theorem free_prolongs (r : List Token) (hr : Free withinDeclaration r) : Free prolongs r :=
  free_of_withinDeclaration (by decide) hr

theorem decides_declaration :
    Decides n (choose declarations) Phrase.Declaration.tokens (Free withinDeclaration)
      fun a x => a.bare = x.tree := by
  refine .choose declaration_starts fun w q hq => ?_
  unfold declarations at hq
  split at hq
  all_goals first
    | obtain rfl := Option.some.inj hq
    | exact absurd hq.symm (Option.some_ne_none q)
  · have hroom : ∀ r, Free withinDeclaration r →
        Free startsString r ∧ Free (· == .arrow) r ∧ Free (· == .word "exit") r := by
      intro r hr
      exact ⟨free_of_withinDeclaration (by decide) hr, free_of_withinDeclaration (by decide) hr,
        free_of_withinDeclaration (by decide) hr⟩
    refine .one .room (fun c => (decides_roomDecl c (Nat.le_refl _)).restrict hroom)
      (fun e ts h => ?_) (fun _ => rfl) fun _ _ => congrArg Declaration.room
    cases e <;> simp [Phrase.Declaration.tokens] at h ⊢
  · have hitem : ∀ r, Free withinDeclaration r →
        Free startsString r ∧ Free (Keywords.starts itemClauses) r := by
      intro r hr
      exact ⟨free_of_withinDeclaration (by decide) hr, free_of_withinDeclaration (by decide) hr⟩
    refine .one .item (fun c => (decides_itemDecl c (Nat.le_refl _)).restrict hitem)
      (fun e ts h => ?_) (fun _ => rfl) fun _ _ => congrArg Declaration.item
    cases e <;> simp [Phrase.Declaration.tokens] at h ⊢
  · have hword : ∀ r, Free withinDeclaration r → Free startsString r :=
      fun r => free_of_withinDeclaration (by decide)
    refine .one .word (fun c => (decides_wordDecl c (Nat.le_refl _)).restrict hword)
      (fun e ts h => ?_) (fun _ => rfl) fun _ _ => congrArg Declaration.word
    cases e <;> simp [Phrase.Declaration.tokens] at h ⊢
  · refine .one .action (fun c => (decides_actionDecl c (Nat.le_refl _)).restrict free_prolongs)
      (fun e ts h => ?_) (fun _ => rfl) fun _ _ => congrArg Declaration.action
    cases e <;> simp [Phrase.Declaration.tokens] at h ⊢
  · refine .one .occurs (fun c => (decides_ruleBody c (Nat.le_refl _)).restrict free_prolongs)
      (fun e ts h => ?_) (fun _ => rfl) fun _ _ => congrArg Declaration.occurs
    cases e <;> simp [Phrase.Declaration.tokens] at h ⊢
  · refine .one .start (fun _ => decides_name) (fun e ts h => ?_) (fun _ => rfl)
      fun _ _ => congrArg Declaration.start
    cases e <;> simp [Phrase.Declaration.tokens] at h ⊢

/-! ## Scripts -/

theorem decides_declarations :
    DecidesAt (many (Keywords.starts declarations) (spanned (choose declarations)))
      (fun xs => xs.flatMap Phrase.Declaration.tokens) (· = [])
      (fun as (xs : List Phrase.Declaration) =>
        as.map (fun a => unplaced a.node.bare) = xs.map fun x => unplaced x.tree) c := by
  refine (DecidesAt.manyChosen decides_declaration declaration_starts ?_ ?_).imp ?_
  · intro x r
    obtain ⟨w, ts, hx, hw⟩ := declaration_starts x
    rw [hx, List.cons_append, Free.cons, withinDeclaration, Keywords.starts, hw, Bool.not_true]
  · intro r hr
    rw [hr]
    exact ⟨.nil, .nil⟩
  · intro as xs h
    exact map_eq_of_forall₂ (h.imp fun _ _ => congrArg unplaced)

theorem decides_finish :
    DecidesAt finish (fun _ : Unit => []) (· = []) (fun _ _ => True) c := by
  obtain ⟨stop, ahead⟩ := c
  cases ahead with
  | nil => exact .inl ⟨(), ⟨stop, []⟩, (), rfl, rfl, trivial, fun _ r _ hr => ⟨rfl, hr⟩⟩
  | cons t rest =>
    refine .inr ⟨⟨stop, t :: rest⟩, rfl, ?_⟩
    intro _ r hr hr'
    exact absurd (hr.trans hr') (List.cons_ne_nil _ _)

theorem decides_script :
    DecidesAt script Sentence.tokens (· = []) (fun tree s => tree.bare = s.tree) c := by
  have hparts : DecidesAt script
      (both (fun xs => xs.flatMap Phrase.Declaration.tokens) fun _ : Unit => []) (· = [])
      (fun a x => a.bare = (Sentence.mk x.1).tree) c := by
    refine decides_declarations.bind ?_ ?_
    · intro as xs c' has _
      refine decides_finish.result ?_
      intro _ _ _
      refine ⟨_, rfl, ?_⟩
      rw [Tree.bare, has]
      rfl
    · intro _ r hr
      exact hr
  refine hparts.rename (fun x => ⟨x.1⟩) (fun s => (s.declarations, ())) (fun _ => rfl) ?_
    fun _ _ => id
  intro x
  exact (List.append_nil _).symm

/-- Nothing is left when a script has been read. -/
theorem values_of_script {c' : Cursor} {tree : Tree} (h : script c = .done tree c') :
    c'.values = [] := by
  change Reader.bind (many (Keywords.starts declarations) (spanned (choose declarations)))
    (fun ds => Reader.bind finish fun _ => Reader.pure (Tree.mk ds)) c = _ at h
  rw [Reader.bind] at h
  split at h
  · next ds rest _ =>
    obtain ⟨stop, ahead⟩ := rest
    cases ahead with
    | nil =>
      obtain ⟨-, rfl⟩ := Reply.done.inj h
      rfl
    | cons t others => cases h
  · cases h

end Grammar

/-- Reading finds the tree of the one sentence that the tokens are, or they are
none. -/
theorem Tree.ofTokens_cases (tokens : List (Spanned Token)) :
    (∃ tree, ∃ s : Sentence, Tree.ofTokens tokens = .ok tree ∧ s.tokens = tokens.map (·.node) ∧
      tree.bare = s.tree ∧ ∀ s' : Sentence, s'.tokens = tokens.map (·.node) → s' = s) ∨
    ((∀ tree, Tree.ofTokens tokens ≠ .ok tree) ∧
      ∀ s : Sentence, s.tokens ≠ tokens.map (·.node)) := by
  have hsentence : ∀ s : Sentence, s.tokens = tokens.map (·.node) →
      Cursor.values ⟨0, tokens⟩ = s.tokens ++ [] := by
    intro s hs
    rw [List.append_nil, hs, Cursor.values]
  rcases Grammar.decides_script (c := ⟨0, tokens⟩) with
    ⟨tree, c', s, hdone, hread, htree, honly⟩ | ⟨k, hstuck, hnone⟩
  · refine .inl ⟨tree, s, ?_, ?_, htree, ?_⟩
    · rw [Tree.ofTokens, hdone]
    · rw [Grammar.values_of_script hdone, List.append_nil] at hread
      exact hread.symm
    · intro s' hs'
      exact (honly s' [] (hsentence s' hs') rfl).1
  · refine .inr ⟨?_, ?_⟩
    · intro tree h
      rw [Tree.ofTokens, hstuck] at h
      cases h
    · intro s hs
      exact hnone s [] (hsentence s hs) rfl

/-- Reading finds a tree exactly if the tokens are a sentence of the grammar.  The
tree is then that of the sentence, apart from the places at which its parts stand,
and no sentence has two derivations.  In a tree a single condition in parentheses
is that condition, and an exit to `self` is one that leads nowhere else. -/
theorem Tree.reads_grammar (tokens : List (Spanned Token)) :
    ((∃ tree, Tree.ofTokens tokens = .ok tree) ↔
      ∃ s : Sentence, s.tokens = tokens.map (·.node)) ∧
    (∀ tree (s : Sentence), Tree.ofTokens tokens = .ok tree →
      s.tokens = tokens.map (·.node) → tree.bare = s.tree) ∧
    (∀ s s' : Sentence, s.tokens = tokens.map (·.node) → s'.tokens = tokens.map (·.node) →
      s = s') ∧
    (∀ x : Phrase.Cond, (Phrase.Unary.group x []).tree = x.tree) ∧
    ∀ direction, (Phrase.Exit.mk direction (some .self)).tree =
      (Phrase.Exit.mk direction none).tree := by
  have hgroup : ∀ x : Phrase.Cond, (Phrase.Unary.group x []).tree = x.tree := by
    intro x
    rw [Phrase.Unary.tree]
  rcases Tree.ofTokens_cases tokens with ⟨tree, s, hok, hs, htree, honly⟩ | ⟨herror, hno⟩
  · refine ⟨⟨fun _ => ⟨s, hs⟩, fun _ => ⟨tree, hok⟩⟩, ?_, ?_, hgroup, fun _ => rfl⟩
    · intro tree' s' htree' hs'
      obtain rfl := Except.ok.inj (hok.symm.trans htree')
      rw [honly s' hs', htree]
    · intro s' s'' hs' hs''
      rw [honly s' hs', honly s'' hs'']
  · refine ⟨⟨?_, ?_⟩, ?_, ?_, hgroup, fun _ => rfl⟩
    · rintro ⟨tree, h⟩
      exact absurd h (herror tree)
    · rintro ⟨s, hs⟩
      exact absurd hs (hno s)
    · intro tree s h _
      exact absurd h (herror tree)
    · intro s s' hs _
      exact absurd hs (hno s)

/-- What stands between two words `or` is nearer to them than the condition beside,
and `word` without an integer is a direction. -/
theorem Tree.reads_grammar_sample :
    ∃ tree, Tree.ofTokens (["occurs", "when", "flag", "a", "or", "always", "exit", "word", "then",
        "quit"].map fun w => unplaced (.word w)) = .ok tree ∧
      tree.bare = ⟨[unplaced (.occurs
        ⟨[.or [.atom (.flag "a") ⟨0, 0⟩, .atom .always ⟨0, 0⟩] ⟨0, 0⟩,
          .atom (.exit "word") ⟨0, 0⟩], [[unplaced .quit]]⟩)]⟩ := by
  have hreads := Tree.reads_grammar (["occurs", "when", "flag", "a", "or", "always", "exit",
    "word", "then", "quit"].map fun w => unplaced (.word w))
  let s : Sentence := ⟨[.occurs ⟨some ⟨.mk (.atom (.flag "a")) [.atom .always],
    [⟨false, .mk (.atom (.exit "word")) []⟩]⟩, ⟨.quit, []⟩, []⟩]⟩
  obtain ⟨tree, htree⟩ := hreads.1.2 ⟨s, rfl⟩
  have hbare := hreads.2.1 tree s htree rfl
  exact ⟨tree, htree, hbare⟩

end Script
end TextAdventure
