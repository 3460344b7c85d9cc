/-
Where names stand, and where reading ends.

A script is read from its tokens in their order.  So the same can be said of two
rows of the same tokens, wherever these stand: they are scripts that say the same,
or reading ends at the same one of them.
-/
import TextAdventure.Proofs.Syntax.Consumed
import TextAdventure.Proofs.Syntax.Lockstep
import TextAdventure.Proofs.Syntax.Sentences

namespace TextAdventure
namespace Script

/-- The place of the name of a room or of an item. -/
def Declaration.nameSpans : Declaration → List Span
  | .room decl => [decl.name.span]
  | .item decl => [decl.name.span]
  | _ => []

/-- The places of the names that a script declares. -/
def Tree.nameSpans (tree : Tree) : List Span :=
  tree.declarations.flatMap (·.node.nameSpans)

/-! ## Where reading ends -/

/-- The place of a token, or of the end of the last one if there are not so
many. -/
def placeOf (tokens : List (Spanned Token)) (k : Nat) : Span :=
  match tokens[k]? with
  | some t => t.span
  | none =>
    let stop := (tokens.getLast?.map (·.span.stop)).getD 0
    ⟨stop, stop⟩

theorem Cursor.stop_skip {c : Cursor} {k : Nat} (h : (c.skip k).ahead = []) :
    (c.skip k).stop = (c.ahead.getLast?.map (·.span.stop)).getD c.stop := by
  have hread := c.reads_skip k
  have hall := hread.ahead
  rw [h, List.append_nil] at hall
  rw [hread.stop, ← hall]

theorem unexpected_span (tokens : List (Spanned Token)) (k : Nat) :
    (unexpected (Cursor.skip ⟨0, tokens⟩ k)).span = placeOf tokens k := by
  have hahead : tokens[k]? = (Cursor.skip ⟨0, tokens⟩ k).ahead.head? := by
    rw [Cursor.ahead_skip, List.head?_drop]
  rw [placeOf, hahead, unexpected]
  cases hrest : (Cursor.skip ⟨0, tokens⟩ k).ahead with
  | nil => rw [List.head?_nil, Cursor.stop_skip hrest]
  | cons t rest => rfl

theorem unexpected_node {c c' : Cursor} (h : c.values = c'.values) :
    (unexpected c).node = (unexpected c').node := by
  obtain ⟨stop, ahead⟩ := c
  obtain ⟨stop', ahead'⟩ := c'
  rcases (Cursor.SameTo.of_values h 0).cases with ⟨rfl, rfl⟩ | ⟨t, rest, t', rest', rfl, rfl, hnode⟩
  · rfl
  · rw [unexpected, unexpected]
    dsimp only
    rw [hnode]

namespace Tree

variable {tokens tokens' : List (Spanned Token)} {tree tree' : Tree}

/-- Rows of the same tokens are read as scripts that say the same. -/
theorem bare_eq_of_tokens (h : tokens.map (·.node) = tokens'.map (·.node))
    (hread : Tree.ofTokens tokens = .ok tree) (hread' : Tree.ofTokens tokens' = .ok tree') :
    tree.bare = tree'.bare := by
  rcases ofTokens_cases tokens with ⟨t, s, ht, -, hbare, honly⟩ | ⟨hnone, -⟩
  · rcases ofTokens_cases tokens' with ⟨t', s', ht', htokens', hbare', -⟩ | ⟨hnone', -⟩
    · obtain rfl : t = tree := Except.ok.inj (ht.symm.trans hread)
      obtain rfl : t' = tree' := Except.ok.inj (ht'.symm.trans hread')
      rw [hbare, hbare', honly s' (htokens'.trans h.symm)]
    · exact absurd hread' (hnone' _)
  · exact absurd hread (hnone _)

/-- On rows of the same tokens the same is read, or reading ends at the same one
of them. -/
theorem ofTokens_abreast (h : tokens.map (·.node) = tokens'.map (·.node)) :
    (∃ tree tree', Tree.ofTokens tokens = .ok tree ∧ Tree.ofTokens tokens' = .ok tree' ∧
      tree.bare = tree'.bare) ∨
    (∃ k message, Tree.ofTokens tokens = .error ⟨message, placeOf tokens k⟩ ∧
      Tree.ofTokens tokens' = .error ⟨message, placeOf tokens' k⟩) := by
  rcases (Reader.Alike.abreast fun _ _ => Grammar.alike_script) ⟨0, tokens⟩ ⟨0, tokens'⟩ h with
    ⟨k, tree, tree', hrun, hrun'⟩ | ⟨k, hrun, hrun'⟩
  · have hread : Tree.ofTokens tokens = .ok tree := by rw [ofTokens, hrun]
    have hread' : Tree.ofTokens tokens' = .ok tree' := by rw [ofTokens, hrun']
    exact .inl ⟨tree, tree', hread, hread', bare_eq_of_tokens h hread hread'⟩
  · have hvalues : Cursor.values ⟨0, tokens⟩ = Cursor.values ⟨0, tokens'⟩ := h
    have hsame : (unexpected (Cursor.skip ⟨0, tokens⟩ k)).node =
        (unexpected (Cursor.skip ⟨0, tokens'⟩ k)).node :=
      unexpected_node (by rw [Cursor.values_skip, hvalues, Cursor.values_skip])
    refine .inr ⟨k, (unexpected (Cursor.skip ⟨0, tokens⟩ k)).node, ?_, ?_⟩
    · rw [ofTokens, hrun, ← unexpected_span]
    · rw [ofTokens, hrun', ← unexpected_span, hsame]

end Tree

end Script
end TextAdventure
