/-
Lexemes are cut where tokens were written.

Written tokens may not touch: next to each other, two words are one word, and
`<` and `=` are one symbol.  Any white space and any comment keep them apart, for
neither goes on with a word, with digits or with a symbol.  What separates may be
cut in other places than it was put together, since blanks that follow each other
are one lexeme, but none of it is read.
-/
import Mathlib.Data.List.Chain
import TextAdventure.Proofs.Text.Digits
import TextAdventure.Script.Lexeme

namespace TextAdventure
namespace Script

open Text

/-! ## Writing -/

/-- What a string is between its quotes: a backslash stands before each quote
and each backslash. -/
def escape (cs : List Char) : List Char :=
  cs.flatMap fun c => if c = '"' ∨ c = '\\' then ['\\', c] else [c]

def Lexeme.isWord : List Char → Bool
  | [] => false
  | c :: rest => startsWord c && rest.all continuesWord

namespace Token

/-- How a token is written in a script. -/
def written : Token → List Char
  | .string text => '"' :: (escape text.toList ++ ['"'])
  | t => t.text.toList

/-- Whether a token can be written.  Only words have a shape. -/
def isWritable : Token → Bool
  | .word name => Lexeme.isWord name.toList
  | _ => true

end Token

/-- What keeps tokens apart. -/
inductive Space where
  | blank (c : Char) (h : Lexeme.isSpace c = true)
  /-- A comment, with the end of its line. -/
  | comment (text : List Char) (h : '\n' ∉ text)

def Space.written : Space → List Char
  | .blank c _ => [c]
  | .comment text _ => '-' :: '-' :: (text ++ ['\n'])

/-- What a text is written with. -/
inductive Mark where
  | space (space : Space)
  | token (token : Token)

namespace Mark

def written : Mark → List Char
  | .space s => s.written
  | .token t => t.written

def isWritable : Mark → Bool
  | .space _ => true
  | .token t => t.isWritable

/-- Whether two marks may follow each other. -/
def Apart : Mark → Mark → Prop
  | .token _, .token _ => False
  | _, _ => True

instance : DecidableRel Apart
  | .token _, .token _ => isFalse not_false
  | .token _, .space _ => isTrue trivial
  | .space _, _ => isTrue trivial

def token? : Mark → Option Token
  | .space _ => none
  | .token t => some t

/-- The text that marks write. -/
def source (marks : List Mark) : String := String.ofList (marks.flatMap written)

/-- The tokens among marks, each with the bytes in which it is written, where
the first mark is written at `offset`. -/
def tokensFrom (offset : Nat) : List Mark → List (Spanned Token)
  | [] => []
  | mark :: rest =>
    let stop := offset + (String.ofList mark.written).utf8ByteSize
    match mark with
    | .space _ => tokensFrom stop rest
    | .token t => ⟨t, ⟨offset, stop⟩⟩ :: tokensFrom stop rest

end Mark

namespace Lexeme

theorem byteLength_eq (cs : List Char) : byteLength cs = (String.ofList cs).utf8ByteSize := by
  induction cs with
  | nil => rfl
  | cons c rest ih =>
    have hsplit : String.ofList (c :: rest) = String.singleton c ++ String.ofList rest := by
      rw [String.singleton_eq_ofList, ← String.ofList_append]
      rfl
    rw [byteLength, ih, hsplit, String.utf8ByteSize_append, String.utf8ByteSize_singleton]

theorem byteLength_append (a b : List Char) :
    byteLength (a ++ b) = byteLength a + byteLength b := by
  rw [byteLength_eq, byteLength_eq, byteLength_eq, String.ofList_append,
    String.utf8ByteSize_append]

/-! ## Strings -/

theorem escape_cons (c : Char) (rest : List Char) :
    escape (c :: rest) = (if c = '"' ∨ c = '\\' then ['\\', c] else [c]) ++ escape rest := rfl

/-- A string ends at the quote that is not escaped. -/
theorem stringBody_escape (cs rest : List Char) :
    stringBody (escape cs ++ '"' :: rest) = escape cs := by
  induction cs with
  | nil => rfl
  | cons c more ih =>
    rw [escape_cons]
    split
    · next h =>
      have hline : c ≠ '\n' := by
        rcases h with rfl | rfl <;> decide
      show stringBody ('\\' :: c :: (escape more ++ '"' :: rest)) = '\\' :: c :: escape more
      rw [stringBody, if_neg hline, ih]
    · next h =>
      obtain ⟨hquote, hslash⟩ := not_or.1 h
      show stringBody (c :: (escape more ++ '"' :: rest)) = c :: escape more
      rw [stringBody, ih]
      · exact hquote
      · exact fun hc _ => hslash hc
      · exact fun _ _ hc _ => hslash hc

theorem unescape_escape (cs : List Char) : unescape (escape cs) = cs := by
  induction cs with
  | nil => rfl
  | cons c more ih =>
    rw [escape_cons]
    split
    · next h =>
      rcases h with rfl | rfl
      · show unescape ('\\' :: '"' :: escape more) = _
        rw [unescape, ih]
      · show unescape ('\\' :: '\\' :: escape more) = _
        rw [unescape, ih]
    · next h =>
      obtain ⟨-, hslash⟩ := not_or.1 h
      show unescape (c :: escape more) = _
      rw [unescape, ih]
      all_goals intros; exact hslash ‹_›

/-! ## Lexemes -/

variable {c : Char} {more rest : List Char}

/-- Whether the lexeme before a text ends there, whatever it is. -/
def Bounds (rest : List Char) : Prop := ∀ c ∈ rest.head?, isSpace c = true ∨ c = '-'

theorem takeWhile_of_bounds {p : Char → Bool} (hmore : ∀ c ∈ more, p c = true)
    (hspace : ∀ c, isSpace c = true → p c = false) (hdash : p '-' = false)
    (h : Bounds rest) : (more ++ rest).takeWhile p = more := by
  rw [List.takeWhile_append_of_pos hmore]
  cases rest with
  | nil => exact List.append_nil more
  | cons c others =>
    have hc : p c = false := by
      rcases h c rfl with h | rfl
      · exact hspace c h
      · exact hdash
    rw [List.takeWhile_cons_of_neg (Bool.eq_false_iff.1 hc), List.append_nil]

/-- White space is that of ASCII. -/
theorem isSpace_iff : isSpace c = true ↔ c = ' ' ∨ c = '\t' ∨ c = '\r' ∨ c = '\n' := by
  simp [isSpace, or_assoc]

theorem continuesWord_of_isSpace (h : isSpace c = true) : continuesWord c = false := by
  rcases isSpace_iff.1 h with rfl | rfl | rfl | rfl <;> decide

theorem isDigit_of_isSpace (h : isSpace c = true) : c.isDigit = false := by
  rcases isSpace_iff.1 h with rfl | rfl | rfl | rfl <;> decide

theorem startsWord_of_isDigit (h : c.isDigit = true) : startsWord c = false := by
  have hdigits : ∀ n : Fin 58, (Char.ofNat n).isDigit = true →
      startsWord (Char.ofNat n) = false := by decide
  have hlt : c.toNat < 58 := Nat.lt_succ_of_le (Char.isDigit_iff_toNat.1 h).2
  have hc := hdigits ⟨c.toNat, hlt⟩
  rw [Char.ofNat_toNat] at hc
  exact hc h

/-- What follows a token does not make it another symbol. -/
theorem ne_equals_of_bounds (h : Bounds rest) (tail : List Char) : rest ≠ '=' :: tail := by
  rintro rfl
  exact absurd (h '=' rfl) (by decide)

/-! ### Tokens -/

theorem continued_word (hc : startsWord c = true) (hmore : ∀ d ∈ more, continuesWord d = true)
    (h : Bounds rest) :
    continued c (more ++ rest) = (more, .token (.word (String.ofList (c :: more)))) := by
  have hspace : isSpace c = false := by
    refine Bool.eq_false_iff.2 fun hspace => ?_
    rcases isSpace_iff.1 hspace with rfl | rfl | rfl | rfl <;> exact absurd hc (by decide)
  have htake : (more ++ rest).takeWhile continuesWord = more :=
    takeWhile_of_bounds hmore (fun _ => continuesWord_of_isSpace) (by decide) h
  unfold continued
  rw [if_neg (Bool.eq_false_iff.1 hspace), if_pos hc, htake]

theorem integer_written (value : Int64) :
    integer (toString value.toInt).toList = .token (.integer value) := by
  rw [integer, intOfDigits_toString]
  show (if _ then _ else _) = _
  rw [if_pos ⟨value.minValue_le_toInt, value.toInt_le⟩, Int64.ofInt_toInt]

theorem continued_digits (hc : c.isDigit = true) (hmore : ∀ d ∈ more, d.isDigit = true)
    (h : Bounds rest) : continued c (more ++ rest) = (more, integer (c :: more)) := by
  have htake : (more ++ rest).takeWhile Char.isDigit = more :=
    takeWhile_of_bounds hmore (fun _ => isDigit_of_isSpace) (by decide) h
  have hspace : isSpace c = false := by
    refine Bool.eq_false_iff.2 fun hspace => ?_
    rw [isDigit_of_isSpace hspace] at hc
    exact absurd hc Bool.false_ne_true
  have hword : startsWord c = false := startsWord_of_isDigit hc
  unfold continued
  rw [if_neg (Bool.eq_false_iff.1 hspace), if_neg (Bool.eq_false_iff.1 hword), if_pos hc, htake]

theorem continued_minus (hne : more ≠ []) (hmore : ∀ d ∈ more, d.isDigit = true)
    (h : Bounds rest) : continued '-' (more ++ rest) = (more, integer ('-' :: more)) := by
  have htake : (more ++ rest).takeWhile Char.isDigit = more :=
    takeWhile_of_bounds hmore (fun _ => isDigit_of_isSpace) (by decide) h
  cases more with
  | nil => exact absurd rfl hne
  | cons d digits =>
    have hd : d.isDigit = true := hmore d List.mem_cons_self
    have hdash : d ≠ '-' := by
      rintro rfl
      exact absurd hd (by decide)
    have harrow : d ≠ '>' := by
      rintro rfl
      exact absurd hd (by decide)
    rw [List.cons_append, continued.eq_4 _ _ hdash harrow]
    show (if d.isDigit = true then _ else _) = _
    rw [if_pos hd, ← List.cons_append, htake]

theorem continued_integer {value : Int64} (hwritten : (toString value.toInt).toList = c :: more)
    (h : Bounds rest) :
    continued c (more ++ rest) = (more, .token (.integer value)) := by
  have hread := integer_written value
  rw [hwritten] at hread
  rw [toList_toString_int] at hwritten
  rw [← hread]
  split at hwritten
  · have hdigits := isDigit_of_mem_toDigits (n := value.toInt.toNat)
    rw [hwritten] at hdigits
    obtain ⟨hc, hmore⟩ := List.forall_mem_cons.1 hdigits
    exact continued_digits hc hmore h
  · obtain ⟨rfl, rfl⟩ := List.cons.inj hwritten
    exact continued_minus Nat.toDigits_ne_nil isDigit_of_mem_toDigits h

/-- A quote closes a string. -/
theorem continued_closed {cs tail : List Char}
    (h : cs.drop (stringBody cs).length = '"' :: tail) :
    continued '"' cs =
      (stringBody cs ++ ['"'], .token (.string (String.ofList (unescape (stringBody cs))))) := by
  have hclasses : isSpace '"' = false ∧ startsWord '"' = false ∧ '"'.isDigit = false := by decide
  unfold continued
  rw [hclasses.1, hclasses.2.1, hclasses.2.2]
  dsimp only
  rw [h]
  rfl

theorem continued_string (cs rest : List Char) :
    continued '"' (escape cs ++ '"' :: rest) =
      (escape cs ++ ['"'], .token (.string (String.ofList cs))) := by
  have hbody := stringBody_escape cs rest
  have hdrop : (escape cs ++ '"' :: rest).drop (stringBody (escape cs ++ '"' :: rest)).length =
      '"' :: rest := by
    rw [hbody, List.drop_left]
  rw [continued_closed hdrop, hbody, unescape_escape]

theorem continued_compare {comparison : Comparison} (hwritten : comparison.text.toList = c :: more)
    (h : Bounds rest) :
    continued c (more ++ rest) = (more, .token (.compare comparison)) := by
  cases comparison <;> obtain ⟨rfl, rfl⟩ := List.cons.inj hwritten
  case eq => rfl
  case ne => rfl
  case le => rfl
  case ge => rfl
  case lt =>
    rw [List.nil_append]
    exact continued.eq_8 rest (ne_equals_of_bounds h)
  case gt =>
    rw [List.nil_append]
    exact continued.eq_9 rest (ne_equals_of_bounds h)

/-- A token is the lexeme that begins where it is written. -/
theorem continued_written {t : Token} (hshape : t.isWritable = true)
    (hwritten : t.written = c :: more) (h : Bounds rest) :
    continued c (more ++ rest) = (more, .token t) := by
  cases t with
  | word name =>
    have hname : name.toList = c :: more := hwritten
    rw [Token.isWritable, hname, isWord, Bool.and_eq_true, List.all_eq_true] at hshape
    rw [continued_word hshape.1 hshape.2 h, ← hname, String.ofList_toList]
  | integer value => exact continued_integer hwritten h
  | compare comparison => exact continued_compare hwritten h
  | string text =>
    obtain ⟨rfl, rfl⟩ := List.cons.inj hwritten
    rw [List.append_assoc, List.singleton_append, continued_string, String.ofList_toList]
  | leftBracket => obtain ⟨rfl, rfl⟩ := List.cons.inj hwritten; rfl
  | rightBracket => obtain ⟨rfl, rfl⟩ := List.cons.inj hwritten; rfl
  | leftParen => obtain ⟨rfl, rfl⟩ := List.cons.inj hwritten; rfl
  | rightParen => obtain ⟨rfl, rfl⟩ := List.cons.inj hwritten; rfl
  | comma => obtain ⟨rfl, rfl⟩ := List.cons.inj hwritten; rfl
  | arrow => obtain ⟨rfl, rfl⟩ := List.cons.inj hwritten; rfl

theorem written_ne_nil {t : Token} (h : t.isWritable = true) : t.written ≠ [] := by
  cases t with
  | word name =>
    intro hnil
    have hname : name.toList = [] := hnil
    rw [Token.isWritable, hname] at h
    exact absurd h Bool.false_ne_true
  | integer value =>
    show (toString value.toInt).toList ≠ []
    rw [toList_toString_int]
    split
    · exact Nat.toDigits_ne_nil
    · exact List.cons_ne_nil _ _
  | compare comparison => cases comparison <;> exact List.cons_ne_nil _ _
  | _ => exact List.cons_ne_nil _ _

/-! ### What is skipped -/

/-- The readings of a text that are not skipped, where the text starts at
`offset`. -/
def meant (offset : Nat) (cs : List Char) : List (Spanned Reading) :=
  (locate offset (cut cs)).filter (·.node != .skipped)

theorem meant_cons {reading : Reading} (offset : Nat)
    (h : continued c (more ++ rest) = (more, reading)) :
    meant offset (c :: (more ++ rest)) =
      [⟨reading, ⟨offset, offset + byteLength (c :: more)⟩⟩].filter (·.node != .skipped) ++
        meant (offset + byteLength (c :: more)) rest := by
  have hcut : cut (c :: (more ++ rest)) = ⟨c :: more, reading⟩ :: cut rest := by
    rw [cut, h]
    show _ :: cut ((more ++ rest).drop more.length) = _
    rw [List.drop_left]
  rw [meant, hcut, locate, ← List.singleton_append, List.filter_append]
  rfl

theorem meant_token {t : Token} (hshape : t.isWritable = true) (h : Bounds rest) (offset : Nat) :
    meant offset (t.written ++ rest) =
      ⟨.token t, ⟨offset, offset + byteLength t.written⟩⟩ ::
        meant (offset + byteLength t.written) rest := by
  cases hwritten : t.written with
  | nil => exact absurd hwritten (written_ne_nil hshape)
  | cons c more => exact meant_cons offset (continued_written hshape hwritten h)

/-- Blanks that follow each other are one lexeme, and so are those of them that
are left. -/
theorem meant_dropBlanks (offset : Nat) (cs : List Char) :
    meant offset cs =
      meant (offset + byteLength (cs.takeWhile isSpace)) (cs.dropWhile isSpace) := by
  cases cs with
  | nil => rfl
  | cons c rest =>
    by_cases hc : isSpace c = true
    · have hcontinued : continued c (rest.takeWhile isSpace ++ rest.dropWhile isSpace) =
          (rest.takeWhile isSpace, .skipped) := by
        rw [List.takeWhile_append_dropWhile]
        unfold continued
        rw [if_pos hc]
      have hmeant := meant_cons offset hcontinued
      rw [List.takeWhile_append_dropWhile] at hmeant
      rw [hmeant, List.takeWhile_cons_of_pos hc, List.dropWhile_cons_of_pos hc]
      rfl
    · rw [List.takeWhile_cons_of_neg hc, List.dropWhile_cons_of_neg hc]
      rfl

theorem meant_blank (hc : isSpace c = true) (offset : Nat) (rest : List Char) :
    meant offset (c :: rest) = meant (offset + byteLength [c]) rest := by
  rw [meant_dropBlanks offset, meant_dropBlanks (offset + byteLength [c]),
    List.takeWhile_cons_of_pos hc, List.dropWhile_cons_of_pos hc, Nat.add_assoc]
  rfl

theorem meant_comment {text : List Char} (h : '\n' ∉ text) (offset : Nat) (rest : List Char) :
    meant offset ('-' :: '-' :: (text ++ '\n' :: rest)) =
      meant (offset + byteLength ('-' :: '-' :: text ++ ['\n'])) rest := by
  have hline : ∀ c ∈ '-' :: text, (c != '\n') = true := by
    intro c hc
    rw [bne_iff_ne]
    rcases List.mem_cons.1 hc with rfl | hc
    · decide
    · rintro rfl
      exact h hc
  have hcontinued : continued '-' (('-' :: text) ++ '\n' :: rest) = ('-' :: text, .skipped) := by
    show (List.takeWhile (· != '\n') (('-' :: text) ++ '\n' :: rest), Reading.skipped) = _
    rw [List.takeWhile_append_of_pos hline, List.takeWhile_cons_of_neg (by decide),
      List.append_nil]
  show meant offset ('-' :: (('-' :: text) ++ '\n' :: rest)) = _
  rw [meant_cons offset hcontinued, meant_blank (by decide), byteLength_append, Nat.add_assoc]
  rfl

theorem meant_space (space : Space) (offset : Nat) (rest : List Char) :
    meant offset (space.written ++ rest) = meant (offset + byteLength space.written) rest := by
  cases space with
  | blank c h => exact meant_blank h offset rest
  | comment text h =>
    have hwritten : (Space.comment text h).written ++ rest = '-' :: '-' :: (text ++ '\n' :: rest) :=
      congrArg (fun more => '-' :: '-' :: more) (List.append_assoc text ['\n'] rest)
    rw [hwritten, meant_comment h]
    rfl

end Lexeme

/-! ## Texts -/

theorem Space.bounds (space : Space) (rest : List Char) :
    Lexeme.Bounds (space.written ++ rest) := by
  intro c hc
  cases space with
  | blank d h =>
    obtain rfl : d = c := Option.some.inj hc
    exact .inl h
  | comment text h => exact .inr (Option.some.inj hc).symm

namespace Mark

/-- Behind a token the text goes on with what keeps tokens apart, if it does. -/
theorem bounds_of_isChain {t : Token} {marks : List Mark}
    (h : (Mark.token t :: marks).IsChain Apart) : Lexeme.Bounds (marks.flatMap written) := by
  cases marks with
  | nil => exact fun c hc => nomatch hc
  | cons mark rest =>
    cases mark with
    | space space => exact space.bounds _
    | token other => exact absurd (List.isChain_cons_cons.1 h).1 not_false

theorem meant_source {marks : List Mark} (hwritable : ∀ mark ∈ marks, mark.isWritable = true)
    (hapart : marks.IsChain Apart) (offset : Nat) :
    Lexeme.meant offset (marks.flatMap written) =
      (tokensFrom offset marks).map fun t => ⟨.token t.node, t.span⟩ := by
  induction marks generalizing offset with
  | nil =>
    rw [Lexeme.meant, List.flatMap_nil, Lexeme.cut]
    rfl
  | cons mark rest ih =>
    obtain ⟨hmark, hmore⟩ := List.forall_mem_cons.1 hwritable
    have hrest := ih hmore hapart.of_cons
    rw [List.flatMap_cons]
    cases mark with
    | space space =>
      show Lexeme.meant offset (space.written ++ rest.flatMap written) = _
      rw [Lexeme.meant_space, hrest, Lexeme.byteLength_eq]
      rfl
    | token t =>
      have hbounds := bounds_of_isChain hapart
      show Lexeme.meant offset (t.written ++ rest.flatMap written) = _
      rw [Lexeme.meant_token hmark hbounds, hrest, Lexeme.byteLength_eq]
      rfl

/-- What is skipped is no token and no fault. -/
theorem readings_filterMap {α : Type} {f : Spanned Reading → Option α}
    (hf : ∀ span, f ⟨.skipped, span⟩ = none) (cs : List Char) :
    (readings (String.ofList cs)).filterMap f = (Lexeme.meant 0 cs).filterMap f := by
  rw [readings, String.toList_ofList, Lexeme.meant, List.filterMap_filter]
  refine List.filterMap_congr fun reading _ => ?_
  obtain ⟨node, span⟩ := reading
  cases node with
  | skipped => exact hf span
  | token t => rfl
  | fault message => rfl

theorem tokensFrom_node (offset : Nat) (marks : List Mark) :
    (tokensFrom offset marks).map (·.node) = marks.filterMap token? := by
  induction marks generalizing offset with
  | nil => rfl
  | cons mark rest ih =>
    cases mark with
    | space space => exact ih _
    | token t => exact congrArg (t :: ·) (ih _)

/-- A text that writes tokens is read without a fault, and as these tokens, each
in the bytes in which it is written. -/
theorem reads_source {marks : List Mark} (hwritable : ∀ mark ∈ marks, mark.isWritable = true)
    (hapart : marks.IsChain Apart) :
    lexicalFaults (source marks) = [] ∧
    (tokens (source marks)).map (·.node) = marks.filterMap token? ∧
    tokens (source marks) = tokensFrom 0 marks := by
  have hmeant := meant_source hwritable hapart 0
  have htokens : tokens (source marks) = tokensFrom 0 marks := by
    rw [tokens, source, readings_filterMap fun _ => rfl, hmeant, List.filterMap_map]
    exact List.filterMap_some
  refine ⟨?_, by rw [htokens, tokensFrom_node], htokens⟩
  rw [lexicalFaults, source, readings_filterMap fun _ => rfl, hmeant, List.filterMap_map]
  exact List.filterMap_eq_nil_iff.2 fun t _ => rfl

end Mark

/-- Neighbours that would be read otherwise if they touched, both ends of the
integers, and a string that looks like other tokens. -/
def Sample.marks : List Mark :=
  [.token (.integer Int64.minValue), .space (.comment ['"', 'é', '-'] (by decide)),
    .token .arrow, .space (.blank ' ' rfl), .token (.compare .lt), .space (.blank '\n' rfl),
    .space (.blank '\t' rfl), .token (.compare .eq), .space (.comment [] (by decide)),
    .token (.string "-- \"é\\\n\\n"), .space (.blank '\r' rfl), .token (.word "can't"),
    .space (.comment ['-'] (by decide)), .space (.blank ' ' rfl),
    .token (.integer Int64.maxValue), .space (.blank ' ' rfl)]

theorem Mark.reads_source_sample :
    (∀ mark ∈ Sample.marks, mark.isWritable = true) ∧ Sample.marks.IsChain Mark.Apart ∧
    lexicalFaults (Mark.source Sample.marks) = [] ∧
    tokens (Mark.source Sample.marks) =
      [⟨.integer Int64.minValue, ⟨0, 20⟩⟩, ⟨.arrow, ⟨27, 29⟩⟩, ⟨.compare .lt, ⟨30, 31⟩⟩,
        ⟨.compare .eq, ⟨33, 34⟩⟩, ⟨.string "-- \"é\\\n\\n", ⟨37, 52⟩⟩,
        ⟨.word "can't", ⟨53, 58⟩⟩, ⟨.integer Int64.maxValue, ⟨63, 82⟩⟩] := by
  have hwritable : ∀ mark ∈ Sample.marks, mark.isWritable = true := by decide +kernel
  have hapart : Sample.marks.IsChain Mark.Apart := by decide +kernel
  obtain ⟨hfaults, -, htokens⟩ := Mark.reads_source hwritable hapart
  refine ⟨hwritable, hapart, hfaults, ?_⟩
  rw [htokens]
  decide +kernel

end Script
end TextAdventure
