/-
Declarations in another order.

A script may be put in another order as long as words and items, rooms and items,
and actions, rules for every turn and starts each keep theirs.  It then compiles
to the same, and what is wrong is reported in the same order.  In particular a
rule may stand before what it refers to.
-/
import TextAdventure.Proofs.Script.Compiled
import TextAdventure.Proofs.Script.Layout

namespace TextAdventure
namespace Script

open Declaration

/-- Whether two scripts have the same declarations of each kind, in the same
order.  Then one is a permutation of the other, since each declaration is of some
kind. -/
structure Tree.Reorders (tree tree' : Tree) : Prop where
  lexical : tree.nodes.filter isLexical = tree'.nodes.filter isLexical
  worldly : tree.nodes.filter isWorldly = tree'.nodes.filter isWorldly
  rules : tree.nodes.filter isRule = tree'.nodes.filter isRule

namespace Tree.Reorders

variable {tree tree' : Tree}

theorem compile (h : tree.Reorders tree') : tree.compile = tree'.compile := by
  have hnames : Names.ofTree tree = Names.ofTree tree' := by
    rw [names_eq, names_eq, h.worldly]
  have hlexicon : tree.lexicon = tree'.lexicon := by
    rw [lexicon_eq, lexicon_eq, h.lexical]
  have hvocabulary : tree.vocabulary = tree'.vocabulary := by
    rw [vocabulary, vocabulary, mentions_eq, mentions_eq, hlexicon, h.worldly, h.rules]
  have hcheck : tree.check = tree'.check := by
    rw [check_eq, check_eq, hnames, hlexicon, h.worldly, h.rules]
  have hassemble : tree.assemble = tree'.assemble := by
    funext parts
    unfold assemble
    rw [hnames, hvocabulary]
  rw [Tree.compile, Tree.compile, hcheck, hassemble]

end Tree.Reorders

/-- The order of declarations counts within each kind only.  Scripts in another
order make the same adventure, or the same is wrong with them in the same places;
and if they are read of sources, where a declaration stands in another place when
it is moved, then the same messages are reported. -/
theorem compile_reordered :
    (∀ tree tree' : Tree, tree.Reorders tree' → tree.compile = tree'.compile) ∧
    ∀ (source source' : String) (tree tree' : Tree),
      lexicalFaults source = [] → lexicalFaults source' = [] →
      Tree.ofTokens (tokens source) = .ok tree → Tree.ofTokens (tokens source') = .ok tree' →
      tree.SameKinds tree' → SameVerdict (compile source) (compile source') := by
  refine ⟨fun tree tree' h => h.compile, ?_⟩
  intro source source' tree tree' hfaults hfaults' hread hread' hkinds
  exact hkinds.compile_source hfaults hfaults' hread hread'

namespace Sample

/-- The small script with its rules before and between what they refer to. -/
def shuffled : Tree where
  declarations := [piece 27 (.action leave), piece 24 (.room hall), piece 28 (.action take),
    piece 29 (.occurs flicker), piece 25 (.item lamp), piece 26 (.room garden),
    piece 30 (.action climb)]

def rulesLast : String :=
  "room hall \"A hall.\" word up item lamp \"A lamp.\" occurs then look start hall"

def rulesFirst : String :=
  "occurs then look start hall word up room hall \"A hall.\" item lamp \"A lamp.\""

end Sample

theorem compile_reordered_sample :
    (Sample.tree.Reorders Sample.shuffled ∧ Sample.tree.compile = Sample.shuffled.compile) ∧
    ∃ tree tree', Tree.ofTokens (tokens Sample.rulesLast) = .ok tree ∧
      Tree.ofTokens (tokens Sample.rulesFirst) = .ok tree' ∧ tree.SameKinds tree' ∧
      SameVerdict (compile Sample.rulesLast) (compile Sample.rulesFirst) := by
  have hreorders : Sample.tree.Reorders Sample.shuffled := ⟨rfl, rfl, rfl⟩
  refine ⟨⟨hreorders, compile_reordered.1 _ _ hreorders⟩, ?_⟩
  have hfaults : lexicalFaults Sample.rulesLast = [] := by decide +kernel
  have hfaults' : lexicalFaults Sample.rulesFirst = [] := by decide +kernel
  have htokens : tokens Sample.rulesLast = [⟨.word "room", ⟨0, 4⟩⟩, ⟨.word "hall", ⟨5, 9⟩⟩,
      ⟨.string "A hall.", ⟨10, 19⟩⟩, ⟨.word "word", ⟨20, 24⟩⟩, ⟨.word "up", ⟨25, 27⟩⟩,
      ⟨.word "item", ⟨28, 32⟩⟩, ⟨.word "lamp", ⟨33, 37⟩⟩, ⟨.string "A lamp.", ⟨38, 47⟩⟩,
      ⟨.word "occurs", ⟨48, 54⟩⟩, ⟨.word "then", ⟨55, 59⟩⟩, ⟨.word "look", ⟨60, 64⟩⟩,
      ⟨.word "start", ⟨65, 70⟩⟩, ⟨.word "hall", ⟨71, 75⟩⟩] := by decide +kernel
  have htokens' : tokens Sample.rulesFirst = [⟨.word "occurs", ⟨0, 6⟩⟩, ⟨.word "then", ⟨7, 11⟩⟩,
      ⟨.word "look", ⟨12, 16⟩⟩, ⟨.word "start", ⟨17, 22⟩⟩, ⟨.word "hall", ⟨23, 27⟩⟩,
      ⟨.word "word", ⟨28, 32⟩⟩, ⟨.word "up", ⟨33, 35⟩⟩, ⟨.word "room", ⟨36, 40⟩⟩,
      ⟨.word "hall", ⟨41, 45⟩⟩, ⟨.string "A hall.", ⟨46, 55⟩⟩, ⟨.word "item", ⟨56, 60⟩⟩,
      ⟨.word "lamp", ⟨61, 65⟩⟩, ⟨.string "A lamp.", ⟨66, 75⟩⟩] := by decide +kernel
  obtain ⟨tree, tree', hread, hread', hkinds⟩ : ∃ tree tree',
      Tree.ofTokens (tokens Sample.rulesLast) = .ok tree ∧
      Tree.ofTokens (tokens Sample.rulesFirst) = .ok tree' ∧ tree.SameKinds tree' := by
    rw [htokens, htokens']
    exact ⟨_, _, rfl, rfl, ⟨rfl, rfl, rfl⟩⟩
  exact ⟨tree, tree', hread, hread', hkinds,
    compile_reordered.2 _ _ tree tree' hfaults hfaults' hread hread' hkinds⟩

end Script
end TextAdventure
