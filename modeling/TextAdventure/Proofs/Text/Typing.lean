/-
What a player has typed.

A line is a row of tokens, and all that is between them is lost: the blanks, and
the punctuation at the ends of each token.  So a line says what its tokens say,
and of two lines with a blank between them the tokens come one after the other.
-/
import TextAdventure.Proofs.Text.Tokens

namespace TextAdventure
namespace Text

variable {p : Char → Bool} {cs : List Char}

theorem dropWhile_eq_of_strip_eq (h : strip p cs = cs) : cs.dropWhile p = cs := by
  have hbefore : strip p cs <+: cs.dropWhile p := List.rdropWhile_prefix p (cs.dropWhile p)
  rw [h] at hbefore
  exact (List.dropWhile_suffix p).eq_of_length_le hbefore.length_le

theorem rdropWhile_eq_of_strip_eq (h : strip p cs = cs) : cs.rdropWhile p = cs := by
  have hfront := dropWhile_eq_of_strip_eq h
  have hback : (cs.dropWhile p).rdropWhile p = cs := h
  rwa [hfront] at hback

/-- What is left as it is by stripping has nothing to strip at either end. -/
theorem ends_of_strip_eq (h : strip p cs = cs) (hne : cs ≠ []) :
    p (cs.head hne) = false ∧ p (cs.getLast hne) = false := by
  have hfront := List.dropWhile_eq_self_iff.1 (dropWhile_eq_of_strip_eq h)
  have hback := List.rdropWhile_eq_self_iff.1 (rdropWhile_eq_of_strip_eq h) hne
  have hhead := hfront (List.length_pos_iff.2 hne)
  rw [← List.head_eq_getElem hne] at hhead
  exact ⟨Bool.eq_false_iff.2 hhead, Bool.eq_false_iff.2 hback⟩

end Text

open Text

/-- The form of a token: there is no blank in it, and at either end stands a
letter or a digit. -/
structure Compact (token : String) : Prop where
  ne_empty : token ≠ ""
  unbroken : ∀ c ∈ token.toList, isBlank c = false
  begins : ∃ c, token.toList.head? = some c ∧ isAlphanumeric c = true
  ends : ∃ c, token.toList.getLast? = some c ∧ isAlphanumeric c = true

namespace Vocabulary

theorem isAlphanumeric_of_not_isPunctuation {c : Char} (h : isPunctuation c = false) :
    isAlphanumeric c = true := by
  simpa [isPunctuation] using h

theorem IsToken.compact {token : String} (h : IsToken token.toList) : Compact token := by
  obtain ⟨hhead, hlast⟩ := ends_of_strip_eq h.stripped h.ne_nil
  refine ⟨fun hnil => h.ne_nil (by rw [hnil]; rfl), h.unbroken, ?_, ?_⟩
  · exact ⟨_, List.head?_eq_some_head h.ne_nil, isAlphanumeric_of_not_isPunctuation hhead⟩
  · exact ⟨_, List.getLast?_eq_some_getLast h.ne_nil, isAlphanumeric_of_not_isPunctuation hlast⟩

/-- What has the form of a token is one. -/
theorem isToken_of_compact {token : String} (h : Compact token) : IsToken token.toList := by
  obtain ⟨first, hfirst, hfirst'⟩ := h.begins
  obtain ⟨last, hlast, hlast'⟩ := h.ends
  have hne : token.toList ≠ [] := fun hnil => by simp [hnil] at hfirst
  refine ⟨hne, h.unbroken, ?_⟩
  have hfront : token.toList.dropWhile isPunctuation = token.toList := by
    refine List.dropWhile_eq_self_iff.2 fun hlen => ?_
    have hhead : token.toList[0] = first := by
      simpa [List.head?_eq_getElem?, List.getElem?_eq_getElem hlen] using hfirst
    simp [hhead, isPunctuation, hfirst']
  have hback : token.toList.rdropWhile isPunctuation = token.toList := by
    refine List.rdropWhile_eq_self_iff.2 fun hne => ?_
    have hgot : token.toList.getLast hne = last := by
      simpa [List.getLast?_eq_some_getLast hne] using hlast
    simp [hgot, isPunctuation, hlast']
  show (token.toList.dropWhile isPunctuation).rdropWhile isPunctuation = token.toList
  rw [hfront, hback]

theorem compact_of_mem_tokens {line token : String} (h : token ∈ tokens line) :
    Compact token := by
  rw [tokens_eq] at h
  obtain ⟨piece, hpiece, rfl⟩ := List.mem_map.1 h
  have htoken : IsToken (String.ofList piece).toList := by
    rw [String.toList_ofList]
    exact isToken_of_mem_pieces hpiece
  exact htoken.compact

/-! ## Lines side by side -/

/-- Blanks before a line are no part of its tokens. -/
theorem pieces_append_of_blank {blanks : List Char} (h : ∀ c ∈ blanks, isBlank c = true)
    (cs : List Char) : pieces (blanks ++ cs) = pieces cs := by
  induction blanks with
  | nil => rfl
  | cons c rest ih =>
    obtain ⟨hc, hrest⟩ := List.forall_mem_cons.1 h
    have hsplit := pieces_append_cons hc [] (rest ++ cs)
    have hnil : pieces [] = [] := by decide
    rw [List.nil_append, hnil, List.nil_append, ih hrest] at hsplit
    exact hsplit

/-- However many blanks stand between two lines, their tokens are what they are
apart. -/
theorem tokens_append {blank : String} (hne : blank ≠ "")
    (hblank : ∀ c ∈ blank.toList, isBlank c = true) (line other : String) :
    tokens (line ++ blank ++ other) = tokens line ++ tokens other := by
  obtain ⟨c, rest, hcs⟩ := List.exists_cons_of_ne_nil (mt String.toList_eq_nil_iff.1 hne)
  rw [hcs, List.forall_mem_cons] at hblank
  obtain ⟨hc, hrest⟩ := hblank
  have hline : (line ++ blank ++ other).toList = line.toList ++ c :: (rest ++ other.toList) := by
    rw [String.toList_append, String.toList_append, hcs, List.append_assoc, List.cons_append]
  rw [tokens_eq, hline, pieces_append_cons hc, pieces_append_of_blank hrest, List.map_append]
  rfl

/-! ## Words and tokens -/

theorem tokens_of_compact {token : String} (h : Compact token) : tokens token = [token] := by
  rw [tokens_eq, (isToken_of_compact h).pieces_eq, List.map_singleton, String.ofList_toList]

/-- The word at a position is that of the token at the position. -/
theorem word_eq_resolve_token (v : Vocabulary) (line : String) (p : Nat) :
    (v.parse line).word p = ((v.parse line).token? p).elim .none v.resolve := by
  cases p with
  | zero => rfl
  | succ i =>
    show ((tokens line).map v.resolve).getD i .none = ((tokens line)[i]?).elim .none v.resolve
    rw [List.getD_eq_getElem?_getD, List.getElem?_map]
    cases (tokens line)[i]? with
    | none => rfl
    | some token => rfl

/-- A token is a word that is known, or it is not recognized. -/
theorem resolve_ne (v : Vocabulary) (token : String) :
    v.resolve token ≠ .none ∧ v.resolve token ≠ .any := by
  rw [resolve]
  cases v.find? token with
  | none => exact ⟨nofun, nofun⟩
  | some word => exact ⟨nofun, nofun⟩

/-- A line is read as its tokens, each of them compact and with its word beside
it.  Nothing but the tokens tells two lines apart, and lines with blanks between
them are read one after the other. -/
theorem parse_stable (v : Vocabulary) (line : String) :
    (v.parse line).words.length = (v.parse line).tokens.length ∧
    (∀ token ∈ (v.parse line).tokens, Compact token) ∧
    (∀ p, (v.parse line).word p = ((v.parse line).token? p).elim .none v.resolve) ∧
    (∀ word ∈ (v.parse line).words, word ≠ .none ∧ word ≠ .any) ∧
    v.parse (v.parse line).text = v.parse line ∧
    (∀ token, Compact token → v.parse token = ⟨[v.resolve token], [token]⟩) ∧
    ∀ blank other, blank ≠ "" → (∀ c ∈ blank.toList, isBlank c = true) →
      v.parse (line ++ blank ++ other) =
        ⟨(v.parse line).words ++ (v.parse other).words,
          (v.parse line).tokens ++ (v.parse other).tokens⟩ := by
  refine ⟨List.length_map _, fun token => compact_of_mem_tokens, v.word_eq_resolve_token line, ?_,
    v.parse_text line, fun token htoken => ?_, fun blank other hne hblank => ?_⟩
  · intro word hword
    obtain ⟨token, -, rfl⟩ := List.mem_map.1 hword
    exact v.resolve_ne token
  · rw [parse, tokens_of_compact htoken, List.map_singleton]
  · rw [parse, tokens_append hne hblank, List.map_append]
    rfl

/-- A mark within a word is kept, and any blank will do between lines. -/
theorem parse_stable_sample :
    Compact "lamp's" ∧ "\t\u00a0" ≠ "" ∧ (∀ c ∈ "\t\u00a0".toList, isBlank c = true) ∧
    tokens "(Take) ... the" = ["Take", "the"] ∧
    empty.parse "lamp's" = ⟨[.unrecognized], ["lamp's"]⟩ ∧
    (empty.parse ("(Take) ... the" ++ "\t\u00a0" ++ "lamp's")).tokens =
      ["Take", "the", "lamp's"] := by
  have hunbroken : "lamp's".toList.any isBlank = false := by decide +kernel
  have hcompact : Compact "lamp's" :=
    ⟨by decide, fun c hc => Bool.eq_false_iff.2 (List.any_eq_false.1 hunbroken c hc),
      ⟨'l', by decide +kernel, by decide +kernel⟩, ⟨'s', by decide +kernel, by decide +kernel⟩⟩
  have hblanks : "\t\u00a0".toList.all isBlank = true := by decide +kernel
  have hblank := List.all_eq_true.1 hblanks
  obtain ⟨-, -, -, -, -, halone, hbeside⟩ := parse_stable empty "(Take) ... the"
  have htake : tokens "(Take) ... the" = ["Take", "the"] := by decide +kernel
  have hlamp := halone "lamp's" hcompact
  refine ⟨hcompact, by decide, hblank, htake, hlamp, ?_⟩
  rw [hbeside "\t\u00a0" "lamp's" (by decide) hblank, hlamp]
  show tokens "(Take) ... the" ++ ["lamp's"] = ["Take", "the", "lamp's"]
  rw [htake]
  rfl

end Vocabulary
end TextAdventure
