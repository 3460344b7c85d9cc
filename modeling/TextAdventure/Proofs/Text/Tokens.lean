/-
The tokens of a line.

A token has no blank in it, and no punctuation at its ends.  So a row of tokens
with blanks between them is read as the same tokens again.  This is how a
command is read from its own text.
-/
import Mathlib.Data.List.DropRight
import TextAdventure.Vocabulary

namespace TextAdventure
namespace Text

variable {p : Char → Bool} {cs : List Char}

/-! ## Stripping -/

theorem mem_of_mem_strip {c : Char} (h : c ∈ strip p cs) : c ∈ cs := by
  have hbefore : strip p cs <+: cs.dropWhile p := List.rdropWhile_prefix p (cs.dropWhile p)
  have hsuffix : cs.dropWhile p <:+ cs := List.dropWhile_suffix p
  exact hsuffix.subset (hbefore.subset h)

theorem strip_strip (p : Char → Bool) (cs : List Char) : strip p (strip p cs) = strip p cs := by
  have hbefore : strip p cs <+: cs.dropWhile p := List.rdropWhile_prefix p (cs.dropWhile p)
  have hfront : (strip p cs).dropWhile p = strip p cs := by
    rw [List.dropWhile_eq_self_iff]
    intro hlen
    have hlen' : 0 < (cs.dropWhile p).length := lt_of_lt_of_le hlen hbefore.length_le
    rw [hbefore.getElem hlen]
    exact List.dropWhile_eq_self_iff.1 (List.dropWhile_idempotent p cs) hlen'
  show ((strip p cs).dropWhile p).rdropWhile p = strip p cs
  rw [hfront]
  exact List.rdropWhile_idempotent p (cs.dropWhile p)

/-! ## Fields -/

theorem fields_of_forall (h : ∀ c ∈ cs, p c = false) : fields p cs = [cs] := by
  induction cs with
  | nil => rfl
  | cons c rest ih =>
    obtain ⟨hc, hrest⟩ := List.forall_mem_cons.1 h
    rw [fields, hc, ih hrest]
    rfl

theorem eq_false_of_mem_fields {field : List Char} (h : field ∈ fields p cs) :
    ∀ c ∈ field, p c = false := by
  induction cs generalizing field with
  | nil =>
    rw [fields, List.mem_singleton] at h
    rw [h]
    exact List.forall_mem_nil _
  | cons c rest ih =>
    rw [fields] at h
    split at h
    · rcases List.mem_cons.1 h with rfl | h
      · exact List.forall_mem_nil _
      · exact ih h
    · next hc =>
      split at h
      · rw [List.mem_singleton.1 h]
        exact List.forall_mem_singleton.2 (Bool.eq_false_iff.2 hc)
      · next first others heq =>
        rw [heq] at ih
        rcases List.mem_cons.1 h with rfl | h
        · have hfirst := ih List.mem_cons_self
          exact List.forall_mem_cons.2 ⟨Bool.eq_false_iff.2 hc, hfirst⟩
        · exact ih (List.mem_cons_of_mem _ h)

end Text

namespace Vocabulary

open Text

def isPunctuation (c : Char) : Bool := !isAlphanumeric c

/-- The tokens of a line, as characters. -/
def pieces (cs : List Char) : List (List Char) :=
  ((fields isBlank cs).map (strip isPunctuation)).filter (!·.isEmpty)

theorem tokens_eq (line : String) : tokens line = (pieces line.toList).map String.ofList := rfl

/-- A blank divides the tokens of a line into those before and after it. -/
theorem pieces_append_cons {c : Char} (hc : isBlank c = true) (a b : List Char) :
    pieces (a ++ c :: b) = pieces a ++ pieces b := by
  rw [pieces, fields_append_cons hc, List.map_append, List.filter_append]
  rfl

/-- The blanks around a line are no part of its tokens. -/
theorem pieces_strip (cs : List Char) : pieces (strip isBlank cs) = pieces cs := by
  have hnil : pieces [] = [] := by decide
  have hfront : ∀ cs, pieces (cs.dropWhile isBlank) = pieces cs := by
    intro cs
    induction cs with
    | nil => rfl
    | cons c rest ih =>
      cases hc : isBlank c with
      | false => rw [List.dropWhile_cons_of_neg (Bool.eq_false_iff.1 hc)]
      | true =>
        have hsplit := pieces_append_cons hc [] rest
        rw [List.nil_append, hnil, List.nil_append] at hsplit
        rw [List.dropWhile_cons_of_pos hc, ih, hsplit]
  have hback : ∀ cs, pieces (cs.rdropWhile isBlank) = pieces cs := by
    intro cs
    induction cs using List.reverseRecOn with
    | nil => rfl
    | append_singleton before c ih =>
      cases hc : isBlank c with
      | false => rw [List.rdropWhile_concat_neg _ _ _ (Bool.eq_false_iff.1 hc)]
      | true =>
        rw [List.rdropWhile_concat_pos _ _ _ hc, ih, pieces_append_cons hc, hnil, List.append_nil]
  rw [← hfront cs]
  exact hback (cs.dropWhile isBlank)

theorem tokens_trim (line : String) : tokens (trim line) = tokens line := by
  rw [tokens_eq, tokens_eq, trim, String.toList_ofList, pieces_strip]

theorem parse_trim (v : Vocabulary) (line : String) : v.parse (trim line) = v.parse line := by
  rw [parse, tokens_trim]
  rfl

/-- A blank line has no tokens. -/
theorem tokens_of_blank {line : String} (h : trim line = "") : tokens line = [] := by
  rw [← tokens_trim, h]
  decide

/-- Whether characters are those of a token. -/
structure IsToken (cs : List Char) : Prop where
  ne_nil : cs ≠ []
  unbroken : ∀ c ∈ cs, isBlank c = false
  stripped : strip isPunctuation cs = cs

theorem isToken_of_mem_pieces {cs token : List Char} (h : token ∈ pieces cs) : IsToken token := by
  obtain ⟨hmem, hne⟩ := List.mem_filter.1 h
  obtain ⟨field, hfield, rfl⟩ := List.mem_map.1 hmem
  have hblank := eq_false_of_mem_fields hfield
  refine ⟨?_, fun c hc => hblank c (mem_of_mem_strip hc), strip_strip _ _⟩
  intro hnil
  rw [hnil] at hne
  exact absurd hne Bool.false_ne_true

theorem IsToken.pieces_eq {token : List Char} (h : IsToken token) : pieces token = [token] := by
  have hfull : (!token.isEmpty) = true := by simpa using h.ne_nil
  rw [pieces, fields_of_forall h.unbroken, List.map_singleton, h.stripped,
    List.filter_singleton, hfull]
  rfl

/-- A row of tokens is read as those tokens. -/
theorem pieces_intercalate {row : List (List Char)} (h : ∀ token ∈ row, IsToken token) :
    pieces ([' '].intercalate row) = row := by
  have hspace : isBlank ' ' = true := by decide
  induction row with
  | nil => decide
  | cons token rest ih =>
    obtain ⟨htoken, hrest⟩ := List.forall_mem_cons.1 h
    cases rest with
    | nil => rw [List.intercalate_singleton, htoken.pieces_eq]
    | cons next others =>
      rw [List.intercalate_cons_cons, List.append_assoc, List.singleton_append,
        pieces_append_cons hspace, htoken.pieces_eq, ih hrest]
      rfl

/-- The tokens of a line are those of the row that they make. -/
theorem tokens_intercalate (line : String) :
    tokens (" ".intercalate (tokens line)) = tokens line := by
  have hrow : (" ".intercalate (tokens line)).toList = [' '].intercalate (pieces line.toList) := by
    rw [String.toList_intercalate, tokens_eq, List.map_map]
    have hid : String.toList ∘ String.ofList = id := funext fun cs => String.toList_ofList
    rw [hid, List.map_id]
    rfl
  have hread : pieces ([' '].intercalate (pieces line.toList)) = pieces line.toList :=
    pieces_intercalate fun token => isToken_of_mem_pieces
  rw [tokens_eq, hrow, hread]
  rfl

/-- A command that was read is read again from its text. -/
theorem parse_text (v : Vocabulary) (line : String) :
    v.parse (v.parse line).text = v.parse line := by
  have h : tokens (v.parse line).text = tokens line := tokens_intercalate line
  rw [parse, h]
  rfl

end Vocabulary
end TextAdventure
