/-
What directions are called.

A direction is written as an identifier.  Its word goes by the name of a word that
is declared, which is an identifier again, or by the name of an item.
-/
import Mathlib.Data.List.TakeWhile
import TextAdventure.Proofs.Script.Recognized
import TextAdventure.Proofs.Syntax.Sentences

namespace TextAdventure
namespace Script

/-! ## Identifiers -/

/-- Whether a text has only characters of identifiers. -/
def IsIdentifier (name : String) : Prop :=
  ∀ c ∈ name.toList, Lexeme.continuesWord c = true

namespace Lexeme

theorem integer_ne_word (text : List Char) (name : String) :
    integer text ≠ .token (.word name) := by
  intro h
  unfold integer at h
  split at h
  · split at h <;> cases h
  · cases h

theorem isIdentifier_of_continued {c : Char} {rest more : List Char} {name : String}
    (h : continued c rest = (more, .token (.word name))) : IsIdentifier name := by
  unfold continued at h
  split at h
  · cases h
  · split at h
    · next hc =>
      obtain ⟨-, hword⟩ := Prod.mk.inj h
      obtain rfl := Token.word.inj (Reading.token.inj hword)
      intro d hd
      rw [String.toList_ofList] at hd
      rcases List.mem_cons.1 hd with rfl | hd
      · exact continuesWord_of_startsWord hc
      · exact List.mem_takeWhile_imp hd
    · split at h
      · exact absurd (Prod.mk.inj h).2 (integer_ne_word _ _)
      · -- what does not start like a word is a string, a number or a sign
        split at h
        · dsimp only at h
          split at h <;> cases h
        · cases h
        · cases h
        · split at h
          · exact absurd (Prod.mk.inj h).2 (integer_ne_word _ _)
          · cases h
        all_goals cases h

theorem isIdentifier_of_mem_cut {cs : List Char} {l : Lexeme} (h : l ∈ cut cs) {name : String}
    (hname : l.reading = .token (.word name)) : IsIdentifier name := by
  induction cs using cut.induct with
  | case1 =>
    rw [cut] at h
    exact absurd h List.not_mem_nil
  | case2 c rest more reading hcontinued ih =>
    rw [cut, hcontinued] at h
    rcases List.mem_cons.1 h with rfl | h
    · obtain rfl : reading = _ := hname
      exact isIdentifier_of_continued hcontinued
    · exact ih h

theorem exists_mem_of_mem_locate {offset : Nat} {ls : List Lexeme} {r : Spanned Reading}
    (h : r ∈ locate offset ls) : ∃ l ∈ ls, l.reading = r.node := by
  induction ls generalizing offset with
  | nil => exact absurd h List.not_mem_nil
  | cons l rest ih =>
    rcases List.mem_cons.1 h with rfl | h
    · exact ⟨l, List.mem_cons_self, rfl⟩
    · obtain ⟨l', hl', hnode⟩ := ih h
      exact ⟨l', List.mem_cons_of_mem _ hl', hnode⟩

end Lexeme

theorem isIdentifier_of_mem_tokens {source name : String}
    (h : .word name ∈ (tokens source).map (·.node)) : IsIdentifier name := by
  obtain ⟨t, ht, hword⟩ := List.mem_map.1 h
  obtain ⟨⟨reading, span⟩, hreading, htoken⟩ := List.mem_filterMap.1 ht
  obtain ⟨l, hl, hnode⟩ := Lexeme.exists_mem_of_mem_locate hreading
  refine Lexeme.isIdentifier_of_mem_cut hl ?_
  rw [hnode]
  cases reading with
  | token token =>
    rw [← Option.some.inj htoken] at hword
    exact congrArg Reading.token hword
  | _ => cases htoken

/-! ## What is written -/

namespace Tree

variable {tree : Tree} {s : Sentence}

/-- Every declaration is written as a phrase of the sentence. -/
theorem exists_phrase (h : tree.bare = s.tree) {d : Declaration} (hd : d ∈ tree.nodes) :
    ∃ x ∈ s.declarations, x.tree = d.bare := by
  obtain ⟨⟨node, span⟩, hmem, rfl⟩ := List.mem_map.1 hd
  have hbare : unplaced node.bare ∈ tree.bare.declarations :=
    List.mem_map_of_mem (f := fun d : Spanned Declaration => unplaced d.node.bare) hmem
  rw [h] at hbare
  obtain ⟨x, hx, heq⟩ := List.mem_map.1 hbare
  exact ⟨x, hx, congrArg Spanned.node heq⟩

theorem word_mem_tokens (h : tree.bare = s.tree) {decl : WordDecl}
    (hd : .word decl ∈ tree.nodes) : .word decl.name.node ∈ s.tokens := by
  obtain ⟨x, hx, htree⟩ := exists_phrase h hd
  refine List.mem_flatMap.2 ⟨x, hx, ?_⟩
  cases x with
  | word w =>
    have hname : w.name = decl.name.node :=
      congrArg (fun decl : WordDecl => decl.name.node) (Declaration.word.inj htree)
    rw [← hname]
    exact List.mem_cons_of_mem _ List.mem_cons_self
  | _ => cases htree

theorem direction_mem_tokens (h : tree.bare = s.tree) {decl : RoomDecl}
    (hd : .room decl ∈ tree.nodes) {clause : ExitClause} (hclause : clause ∈ decl.exits) :
    .word clause.direction.node ∈ s.tokens := by
  obtain ⟨x, hx, htree⟩ := exists_phrase h hd
  refine List.mem_flatMap.2 ⟨x, hx, ?_⟩
  cases x with
  | room r =>
    have hexits : r.exits.map Phrase.Exit.tree = decl.exits.map ExitClause.bare :=
      congrArg RoomDecl.exits (Declaration.room.inj htree)
    have hbare := List.mem_map_of_mem (f := ExitClause.bare) hclause
    rw [← hexits] at hbare
    obtain ⟨e, he, heq⟩ := List.mem_map.1 hbare
    have hdirection : e.direction = clause.direction.node :=
      congrArg (fun clause : ExitClause => clause.direction.node) heq
    rw [← hdirection]
    refine List.mem_cons_of_mem _ (List.mem_append_right _ (List.mem_flatMap.2 ⟨e, he, ?_⟩))
    exact List.mem_cons_of_mem _ List.mem_cons_self
  | _ => cases htree

end Tree

/-! ## What is declared -/

theorem name_withSynonyms (name : String) (synonyms : List String) :
    (NamedWord.withSynonyms name synonyms).name = name := by
  have hkept : ∀ (w : NamedWord) (synonyms : List String),
      (synonyms.foldl NamedWord.addSynonym w).name = w.name := by
    intro w synonyms
    induction synonyms generalizing w with
    | nil => rfl
    | cons synonym rest ih =>
      rw [List.foldl_cons, ih, NamedWord.addSynonym]
      split <;> rfl
  exact hkept (.ofName name) synonyms

/-- A word of a script goes by the name of a word or of an item that is declared. -/
theorem Tree.exists_declared {tree : Tree} {w : NamedWord} (h : w ∈ tree.lexicon.words) :
    (∃ decl, Declaration.word decl ∈ tree.nodes ∧ w.name = decl.name.node) ∨
      ∃ decl, Declaration.item decl ∈ tree.nodes ∧ w.name = decl.name.node := by
  obtain ⟨given, hgiven, hname⟩ := Vocabulary.exists_name_of_mem_ofList h
  obtain ⟨d, hd, hword⟩ := List.mem_filterMap.1 hgiven
  have hnode : d.node ∈ tree.nodes := List.mem_map_of_mem hd
  rw [← hname]
  generalize d.node = node at hword hnode
  cases node with
  | word decl =>
    rw [← Option.some.inj hword, name_withSynonyms]
    exact .inl ⟨decl, hnode, rfl⟩
  | item decl =>
    rw [Declaration.word?] at hword
    split at hword
    · cases hword
    · rw [← Option.some.inj hword, name_withSynonyms]
      exact .inr ⟨decl, hnode, rfl⟩
  | _ => cases hword

theorem Tree.exists_item_of_declared {tree : Tree} {a : Adventure} (h : tree.compile = .ok a)
    {decl : ItemDecl} (hdecl : .item decl ∈ tree.nodes) :
    ∃ i ∈ a.world.items, i.name = decl.name.node := by
  obtain ⟨parts, hcheck, hassemble⟩ := exists_parts_of_compile h
  have hname : decl.name.node ∈ tree.itemNames := by
    obtain ⟨d, hd, hnode⟩ := List.mem_map.1 hdecl
    exact List.mem_filterMap.2 ⟨d, hd, by rw [hnode]; rfl⟩
  rw [← itemNames_of_parts hcheck, ← (assemble_eq_ok hassemble).2.1] at hname
  exact List.mem_map.1 hname

theorem exists_sentence_of_compile {source : String} {a : Adventure}
    (h : compile source = .ok a) : ∃ (tree : Tree) (s : Sentence),
      Tree.ofTokens (tokens source) = .ok tree ∧ s.tokens = (tokens source).map (·.node) ∧
      tree.bare = s.tree ∧ tree.compile = .ok a := by
  rw [compile] at h
  split at h
  · cases h
  · rcases Tree.ofTokens_cases (tokens source) with ⟨tree, s, hok, hs, hbare, -⟩ | ⟨herror, -⟩
    · rw [hok] at h
      exact ⟨tree, s, hok, hs, hbare, h⟩
    · split at h
      · cases h
      · next tree hok => exact absurd hok (herror tree)

/-- A direction in the world of a source goes by an identifier or by the name of
an item. -/
theorem direction_cases {source : String} {a : Adventure} (h : compile source = .ok a)
    {r : Room} (hr : r ∈ a.world.rooms) {e : Exit} (he : e ∈ r.exits) :
    IsIdentifier e.direction.name ∨ ∃ i ∈ a.world.items, i.name = e.direction.name := by
  obtain ⟨tree, s, -, htokens, hbare, hcompile⟩ := exists_sentence_of_compile h
  have hidentifier : ∀ {name : String}, .word name ∈ s.tokens → IsIdentifier name := by
    intro name hname
    rw [htokens] at hname
    exact isIdentifier_of_mem_tokens hname
  obtain ⟨world, rules, made⟩ := Tree.exists_madeOf hcompile
  obtain ⟨decl, hdecl, hdeclares⟩ := exists_left_of_forall₂ made.declares_rooms hr
  obtain ⟨clause, hclause, hexit⟩ := exists_left_of_forall₂ hdeclares.exits he
  obtain ⟨d, hd, hroom⟩ := List.mem_filterMap.1 hdecl
  rw [Declaration.room?_eq_some hroom] at hd
  rw [hexit.direction, Word.name]
  rcases wordFor_cases tree.lexicon clause.direction.node with hword | ⟨hname, -⟩
  · rcases Tree.exists_declared hword with ⟨decl', hdecl', heq⟩ | ⟨decl', hdecl', heq⟩
    · rw [heq]
      exact .inl (hidentifier (Tree.word_mem_tokens hbare hdecl'))
    · rw [heq]
      exact .inr (Tree.exists_item_of_declared hcompile hdecl')
  · rw [hname]
    exact .inl (hidentifier (Tree.direction_mem_tokens hbare hd hclause))

end Script
end TextAdventure
