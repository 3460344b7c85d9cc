/-
Lines, and the pieces between line feeds.

A line keeps the line feed that ends it, and a piece has none.  So the lines of a
text are its pieces, each with its line feed again, except that the last piece
has none to be given, and is no line at all if it is empty.
-/
import TextAdventure.Proofs.Text.Lines
import TextAdventure.Proofs.Text.Tokens

namespace TextAdventure
namespace Text

/-! ## Lines of bytes -/

/-- Whether lines are what bytes are split into after each line feed. -/
structure SplitAfter (bytes : List UInt8) (lines : List (List UInt8)) : Prop where
  joined : lines.flatten = bytes
  full : ∀ line ∈ lines, line ≠ []
  /-- In a line, nothing stands behind a line feed. -/
  single : ∀ line ∈ lines, 10 ∉ line.dropLast
  closed : ∀ line ∈ lines.dropLast, line.getLast? = some 10

theorem byteLines_ne_nil {b : UInt8} {rest : List UInt8} : byteLines (b :: rest) ≠ [] := by
  rw [byteLines]
  split
  · exact List.cons_ne_nil _ _
  · split <;> exact List.cons_ne_nil _ _

theorem splitAfter_byteLines (bytes : List UInt8) : SplitAfter bytes (byteLines bytes) := by
  induction bytes with
  | nil => exact ⟨rfl, List.forall_mem_nil _, List.forall_mem_nil _, List.forall_mem_nil _⟩
  | cons b rest ih =>
    rw [byteLines]
    by_cases hb : b = 10
    · rw [if_pos hb]
      refine ⟨?_, ?_, ?_, ?_⟩
      · rw [List.flatten_cons, ih.joined]
        rfl
      · exact List.forall_mem_cons.2 ⟨List.cons_ne_nil _ _, ih.full⟩
      · exact List.forall_mem_cons.2 ⟨List.not_mem_nil, ih.single⟩
      · cases hlines : byteLines rest with
        | nil => exact List.forall_mem_nil _
        | cons line others =>
          rw [List.dropLast_cons_cons, ← hlines]
          refine List.forall_mem_cons.2 ⟨?_, ih.closed⟩
          rw [hb]
          rfl
    · rw [if_neg hb]
      cases hlines : byteLines rest with
      | nil =>
        cases rest with
        | nil => exact ⟨rfl, by simp, by simp, List.forall_mem_nil _⟩
        | cons c more => exact absurd hlines byteLines_ne_nil
      | cons line others =>
        rw [hlines] at ih
        obtain ⟨hline, hothers⟩ := List.forall_mem_cons.1 ih.full
        obtain ⟨hsingle, hsingles⟩ := List.forall_mem_cons.1 ih.single
        refine ⟨?_, ?_, ?_, ?_⟩
        · rw [← ih.joined]
          rfl
        · exact List.forall_mem_cons.2 ⟨List.cons_ne_nil _ _, hothers⟩
        · refine List.forall_mem_cons.2 ⟨?_, hsingles⟩
          rw [List.dropLast_cons_of_ne_nil hline, List.mem_cons, not_or]
          exact ⟨Ne.symm hb, hsingle⟩
        · cases others with
          | nil => exact List.forall_mem_nil _
          | cons next more =>
            have hclosed := ih.closed
            rw [List.dropLast_cons_cons, List.forall_mem_cons] at hclosed ⊢
            refine ⟨?_, hclosed.2⟩
            rw [List.getLast?_cons, hclosed.1]
            rfl

theorem encode_of_decode {bytes : List UInt8} {text : String} (h : decode bytes = some text) :
    encode text = bytes := by
  rw [decode, String.fromUTF8?] at h
  split at h
  · rw [← Option.some.inj h]
    rfl
  · cases h

/-- Bytes are the code of a text exactly if they decode. -/
theorem decode_eq_none_iff {bytes : List UInt8} :
    decode bytes = none ↔ ∀ text, encode text ≠ bytes := by
  constructor
  · rintro h text rfl
    rw [decode_encode] at h
    cases h
  · intro h
    cases hdecode : decode bytes with
    | none => rfl
    | some text => exact absurd (encode_of_decode hdecode) (h text)

/-! ## Pieces of a text -/

/-- The pieces of a text that its line feeds separate. -/
def linePieces (text : String) : List String :=
  (fields (· == '\n') text.toList).map String.ofList

theorem intercalate_fields (cs : List Char) :
    ['\n'].intercalate (fields (· == '\n') cs) = cs := by
  induction cs with
  | nil => rfl
  | cons c rest ih =>
    cases hfields : fields (· == '\n') rest with
    | nil => exact absurd hfields (fields_ne_nil _ rest)
    | cons piece others =>
      rw [hfields] at ih
      rw [fields, hfields]
      by_cases hc : c = '\n'
      · rw [if_pos (beq_iff_eq.2 hc), List.intercalate_cons_cons, ih, hc]
        rfl
      · rw [if_neg (mt beq_iff_eq.1 hc)]
        cases others with
        | nil => simpa using ih
        | cons next more =>
          rw [List.intercalate_cons_cons] at ih ⊢
          rw [List.cons_append, List.cons_append, ih]

/-- With line feeds between them the pieces are the text. -/
theorem intercalate_linePieces (text : String) : "\n".intercalate (linePieces text) = text := by
  have hid : String.toList ∘ String.ofList = id := funext fun cs => String.toList_ofList
  rw [← String.toList_inj, String.toList_intercalate, linePieces, List.map_map, hid, List.map_id]
  exact intercalate_fields text.toList

theorem newline_not_mem_of_mem_linePieces {text piece : String} (h : piece ∈ linePieces text) :
    '\n' ∉ piece.toList := by
  obtain ⟨field, hfield, rfl⟩ := List.mem_map.1 h
  rw [String.toList_ofList]
  intro hmem
  exact absurd (eq_false_of_mem_fields hfield '\n' hmem) (by decide)

/-- Pieces with their line feeds again. -/
def terminate : List (List Char) → List (List Char)
  | [] => []
  | [last] => if last = [] then [] else [last]
  | piece :: rest => (piece ++ ['\n']) :: terminate rest

theorem terminate_cons {piece : List Char} {rest : List (List Char)} (h : rest ≠ []) :
    terminate (piece :: rest) = (piece ++ ['\n']) :: terminate rest := by
  cases rest with
  | nil => exact absurd rfl h
  | cons next others => rfl

/-- The lines of a text are its pieces with their line feeds. -/
theorem charLines_eq_terminate (cs : List Char) :
    charLines cs = terminate (fields (· == '\n') cs) := by
  induction cs with
  | nil => rfl
  | cons c rest ih =>
    have hne := fields_ne_nil (· == '\n') rest
    rw [charLines, fields]
    by_cases hc : c = '\n'
    · rw [if_pos hc, if_pos (beq_iff_eq.2 hc), terminate_cons hne, ← ih, hc]
      rfl
    · rw [if_neg hc, if_neg (mt beq_iff_eq.1 hc), ih]
      cases hfields : fields (· == '\n') rest with
      | nil => exact absurd hfields hne
      | cons piece others =>
        cases others with
        | cons next more => rfl
        | nil =>
          by_cases hpiece : piece = [] <;> simp [terminate, hpiece]

end Text
end TextAdventure
