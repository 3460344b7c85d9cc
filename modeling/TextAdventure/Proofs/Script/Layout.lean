/-
Layout does not count.

Two sources of the same tokens differ in where the tokens stand alone.  No two
tokens of a source stand in one place, whatever is between them, so no two names
do, and whose a name is remains a matter of order.
-/
import TextAdventure.Proofs.Script.Cutting
import TextAdventure.Proofs.Script.Headed
import TextAdventure.Proofs.Script.Owned

namespace TextAdventure
namespace Script

/-! ## Places of tokens -/

/-- No two tokens stand in one place. -/
theorem nodup_spans (source : String) : ((tokens source).map (·.span)).Nodup := by
  refine List.pairwise_map.2 ((pairwise_tokens source).imp_of_mem fun {a b} ha _ hle heq => ?_)
  have hlt : a.span.start < a.span.stop :=
    start_lt_stop_of_mem_readings (mem_readings_of_mem_tokens ha)
  rw [← heq] at hle
  exact Nat.not_le.2 hlt hle

theorem Tree.apart_of_tokens {source : String} {tree : Tree}
    (h : Tree.ofTokens (tokens source) = .ok tree) : tree.Apart :=
  (Tree.nameSpans_sublist h).nodup (nodup_spans source)

/-! ## Sources of the same tokens -/

section

variable {source : String} (h : lexicalFaults source = [])

include h

theorem compile_of_reading {tree : Tree} (hread : Tree.ofTokens (tokens source) = .ok tree) :
    compile source = tree.compile := by
  unfold compile
  rw [h]
  dsimp only
  rw [hread]

theorem compile_of_misreading {fault : Spanned String}
    (hread : Tree.ofTokens (tokens source) = .error fault) :
    compile source = .error (.unreadableIn source fault) := by
  unfold compile
  rw [h]
  dsimp only
  rw [hread]

end

/-- Scripts are compared as what was read of their sources. -/
theorem Tree.SameKinds.compile_source {source source' : String} {tree tree' : Tree}
    (hkinds : tree.SameKinds tree') (hfaults : lexicalFaults source = [])
    (hfaults' : lexicalFaults source' = []) (hread : Tree.ofTokens (tokens source) = .ok tree)
    (hread' : Tree.ofTokens (tokens source') = .ok tree') :
    SameVerdict (Script.compile source) (Script.compile source') := by
  rw [compile_of_reading hfaults hread, compile_of_reading hfaults' hread']
  exact hkinds.compile (apart_of_tokens hread) (apart_of_tokens hread')

/-- Scripts that say the same say the same of each kind. -/
theorem Tree.sameKinds_of_bare {tree tree' : Tree} (h : tree.bare = tree'.bare) :
    tree.SameKinds tree' := by
  have hnodes : ∀ t : Tree, t.nodes.map Declaration.bare = t.bare.nodes := by
    intro t
    rw [nodes, nodes, bare, List.map_map, List.map_map]
    rfl
  have hkind : ∀ kind : Declaration → Bool, (∀ d, kind d.bare = kind d) →
      (tree.nodes.filter kind).map Declaration.bare =
        (tree'.nodes.filter kind).map Declaration.bare := by
    intro kind hkind
    have hfilter : ∀ t : Tree, (t.nodes.filter kind).map Declaration.bare =
        t.bare.nodes.filter kind := by
      intro t
      rw [← hnodes, List.filter_map]
      refine congrArg (List.map Declaration.bare) (List.filter_congr fun d _ => ?_)
      exact (hkind d).symm
    rw [hfilter, hfilter, h]
  exact ⟨hkind _ Declaration.isLexical_bare, hkind _ Declaration.isWorldly_bare,
    hkind _ Declaration.isRule_bare⟩

/-- Whether two sources come to the same: to one adventure, to the same messages
about what is said, or to the same message about a token, or about the end, which
stands where it does in each. -/
inductive SameOutcome (source source' : String) :
    Except CompileError Adventure → Except CompileError Adventure → Prop
  | read {r r' : Except CompileError Adventure} (h : SameVerdict r r') :
    SameOutcome source source' r r'
  | unreadable (k : Nat) (message : String) : SameOutcome source source'
    (.error (.unreadableIn source ⟨message, placeOf (tokens source) k⟩))
    (.error (.unreadableIn source' ⟨message, placeOf (tokens source') k⟩))

/-- Sources of the same tokens come to the same. -/
theorem same_tokens_same_outcome {source source' : String} (hfaults : lexicalFaults source = [])
    (hfaults' : lexicalFaults source' = [])
    (htokens : (tokens source).map (·.node) = (tokens source').map (·.node)) :
    SameOutcome source source' (compile source) (compile source') := by
  rcases Tree.ofTokens_abreast htokens with
    ⟨tree, tree', hread, hread', hbare⟩ | ⟨k, message, hread, hread'⟩
  · have hkinds : tree.SameKinds tree' := Tree.sameKinds_of_bare hbare
    exact .read (hkinds.compile_source hfaults hfaults' hread hread')
  · rw [compile_of_misreading hfaults hread, compile_of_misreading hfaults' hread']
    exact .unreadable k message

/-- A script in one line, with a name that is declared twice. -/
def Sample.line : String :=
  "room hall \"A hall.\" item lamp \"A lamp.\" in hall room Hall \"Another.\""

/-- The same script as one would write it. -/
def Sample.page : String :=
  "-- Où?\nroom hall\n  \"A hall.\"\n\n" ++
    "item lamp--\n\t\"A lamp.\" in hall\n\nroom Hall \"Another.\"\n"

theorem same_tokens_same_outcome_sample :
    lexicalFaults Sample.line = [] ∧ lexicalFaults Sample.page = [] ∧
    (tokens Sample.line).map (·.node) = (tokens Sample.page).map (·.node) ∧
    tokens Sample.line ≠ tokens Sample.page ∧
    SameOutcome Sample.line Sample.page (compile Sample.line) (compile Sample.page) := by
  have hfaults : lexicalFaults Sample.line = [] := by decide +kernel
  have hfaults' : lexicalFaults Sample.page = [] := by decide +kernel
  have htokens : (tokens Sample.line).map (·.node) = (tokens Sample.page).map (·.node) := by
    decide +kernel
  exact ⟨hfaults, hfaults', htokens, by decide +kernel,
    same_tokens_same_outcome hfaults hfaults' htokens⟩

end Script
end TextAdventure
