/-
Reading ends at the first impossible token.

What was read before that token begins a script, and no script goes on with the
token: a reader that is stuck there is stuck in every script that has the same
tokens up to it.
-/
import TextAdventure.Proofs.Syntax.Spans

namespace TextAdventure
namespace Script

/-- What is found at a token, or where there are not so many. -/
def foundAt (tokens : List (Spanned Token)) (k : Nat) : String :=
  match tokens[k]? with
  | some t => s!"found '{t.node.text}'"
  | none => "found end of input"

theorem unexpected_eq (tokens : List (Spanned Token)) (k : Nat) :
    unexpected (Cursor.skip ⟨0, tokens⟩ k) = ⟨foundAt tokens k, placeOf tokens k⟩ := by
  have hnode : (unexpected (Cursor.skip ⟨0, tokens⟩ k)).node = foundAt tokens k := by
    have hahead : tokens[k]? = (Cursor.skip ⟨0, tokens⟩ k).ahead.head? := by
      rw [Cursor.ahead_skip, List.head?_drop]
    rw [foundAt, hahead, unexpected]
    cases (Cursor.skip ⟨0, tokens⟩ k).ahead <;> rfl
  rw [← hnode, ← unexpected_span]

namespace Grammar

/-- A script is read or not by its tokens up to the one at which reading ends. -/
theorem script_stuck_of_sameTo {c c' : Cursor} {k : Nat} (hk : k ≤ c.ahead.length)
    (hstuck : script c = .stuck (c.skip k)) (hsame : c.SameTo c' k) :
    script c' = .stuck (c'.skip k) := by
  obtain ⟨j, hj, ⟨tree, hdone, -⟩ | ⟨hstuck', hother⟩⟩ :=
    alike_script c c' (Nat.le_refl _) (Nat.le_refl _)
  · exact absurd (hstuck.symm.trans hdone) nofun
  · have hskip := congrArg (·.ahead.length) (Reply.stuck.inj (hstuck'.symm.trans hstuck))
    simp only [Cursor.length_ahead_skip] at hskip
    obtain rfl : j = k := by omega
    exact hother hsame

/-- What was read where reading ends begins a sentence. -/
theorem exists_sentence_of_stuck {c : Cursor} {k : Nat} (hstuck : script c = .stuck (c.skip k)) :
    ∃ (s : Sentence) (more : List Token), s.tokens = c.values.take k ++ more := by
  obtain ⟨read, s, more, hread, hs⟩ := begins_script.stuck c (c.skip k) hstuck
  rw [Cursor.values_skip] at hread
  have htake : read = c.values.take k :=
    List.append_cancel_right (hread.symm.trans (List.take_append_drop k c.values).symm)
  exact ⟨s, more, htake ▸ hs⟩

end Grammar

namespace Tree

variable {tokens : List (Spanned Token)}

theorem script_of_error {fault : Spanned String} (h : Tree.ofTokens tokens = .error fault) :
    ∃ k ≤ tokens.length, fault = unexpected (Cursor.skip ⟨0, tokens⟩ k) ∧
      Grammar.script ⟨0, tokens⟩ = .stuck (Cursor.skip ⟨0, tokens⟩ k) := by
  obtain ⟨k, hk, ⟨tree, hdone, -⟩ | ⟨hstuck, -⟩⟩ :=
    Grammar.alike_script ⟨0, tokens⟩ ⟨0, tokens⟩ (Nat.le_refl _) (Nat.le_refl _)
  · rw [ofTokens, hdone] at h
    cases h
  · rw [ofTokens, hstuck] at h
    exact ⟨k, hk, (Except.error.inj h).symm, hstuck⟩

theorem ofTokens_of_sentence (s : Sentence) (h : s.tokens = tokens.map (·.node)) :
    ∃ tree, Tree.ofTokens tokens = .ok tree := by
  rcases ofTokens_cases tokens with ⟨tree, -, hread, -⟩ | ⟨-, hnone⟩
  · exact ⟨tree, hread⟩
  · exact absurd h (hnone s)

/-- If tokens are no script, reading ends at the first of them that is impossible:
those before it can be completed to a script, and it is in none that begins with
them.  If it ends behind the last token, all can be completed. -/
theorem ends_at_first_impossible {fault : Spanned String}
    (h : Tree.ofTokens tokens = .error fault) :
    ∃ k ≤ tokens.length,
      fault = ⟨foundAt tokens k, placeOf tokens k⟩ ∧
      (∃ more : List Token, ∀ tokens' : List (Spanned Token),
        tokens'.map (·.node) = (tokens.take k).map (·.node) ++ more →
        ∃ tree, Tree.ofTokens tokens' = .ok tree) ∧
      ∀ tokens' tree, Tree.ofTokens tokens' = .ok tree →
        (k < tokens.length → ¬(tokens.take (k + 1)).map (·.node) <+: tokens'.map (·.node)) ∧
        (k = tokens.length → tokens'.map (·.node) ≠ tokens.map (·.node)) := by
  obtain ⟨k, hk, hfault, hstuck⟩ := script_of_error h
  refine ⟨k, hk, hfault.trans (unexpected_eq tokens k), ?_, ?_⟩
  · obtain ⟨s, more, hs⟩ := Grammar.exists_sentence_of_stuck hstuck
    refine ⟨more, fun tokens' htokens' => ofTokens_of_sentence s ?_⟩
    rw [hs, htokens', Cursor.values, List.map_take]
  · intro tokens' tree hread
    have hdiffer : ¬Cursor.SameTo ⟨0, tokens⟩ ⟨0, tokens'⟩ k := by
      intro hsame
      rw [ofTokens, Grammar.script_stuck_of_sameTo hk hstuck hsame] at hread
      cases hread
    refine ⟨fun hlt hbegins => hdiffer ?_, fun _ hsame => hdiffer ?_⟩
    · have hlength : ((tokens.take (k + 1)).map (·.node)).length = k + 1 := by
        rw [List.length_map, List.length_take, Nat.min_eq_left hlt]
      have htake := List.prefix_iff_eq_take.1 hbegins
      rw [hlength, List.map_take] at htake
      exact htake
    · exact congrArg (List.take (k + 1)) hsame.symm

end Tree

/-- The tokens of `action take [lamp, then quit`. -/
def Sample.unclosed : List (Spanned Token) :=
  [⟨.word "action", ⟨0, 6⟩⟩, ⟨.word "take", ⟨7, 11⟩⟩, ⟨.leftBracket, ⟨12, 13⟩⟩,
    ⟨.word "lamp", ⟨13, 17⟩⟩, ⟨.comma, ⟨17, 18⟩⟩, ⟨.word "then", ⟨19, 23⟩⟩,
    ⟨.word "quit", ⟨24, 28⟩⟩]

/-- The second pattern of an action can be left out, but where it is begun it must
be ended. -/
theorem Tree.ends_at_first_impossible_sample :
    Tree.ofTokens Sample.unclosed = .error ⟨"found 'then'", ⟨19, 23⟩⟩ ∧
    (∃ more : List Token, ∀ tokens' : List (Spanned Token),
      tokens'.map (·.node) = (Sample.unclosed.take 5).map (·.node) ++ more →
      ∃ tree, Tree.ofTokens tokens' = .ok tree) ∧
    ∀ tokens' tree, Tree.ofTokens tokens' = .ok tree →
      ¬(Sample.unclosed.take 6).map (·.node) <+: tokens'.map (·.node) := by
  have herror : Tree.ofTokens Sample.unclosed = .error ⟨"found 'then'", ⟨19, 23⟩⟩ := rfl
  obtain ⟨k, hk, hfault, hmore, hnone⟩ := Tree.ends_at_first_impossible herror
  have honly : ∀ k ≤ Sample.unclosed.length, placeOf Sample.unclosed k = ⟨19, 23⟩ → k = 5 := by
    decide
  obtain rfl : k = 5 := honly k hk (Spanned.mk.inj hfault).2.symm
  exact ⟨herror, hmore, fun tokens' tree hread => (hnone tokens' tree hread).1 (by decide)⟩

end Script
end TextAdventure
