/-
Every byte of a source is accounted for.

A source is cut into lexemes, and nothing is lost between them: each is a piece
of the text that follows those before it.  What is not read is white space and
comments.  A token depends on its own piece of text alone, since that piece would
be cut in the same way if nothing followed it.
-/
import Mathlib.Data.List.Pairwise
import Mathlib.Data.List.TakeWhile
import TextAdventure.Proofs.Script.Writing
import TextAdventure.Script.Compile

namespace TextAdventure
namespace Script

open Text

/-- Whether a byte is one of those at a span. -/
def Span.Has (span : Span) (i : Nat) : Prop := span.start ≤ i ∧ i < span.stop

/-- Whether two spans have no byte in common. -/
def Span.Apart (a b : Span) : Prop := a.stop ≤ b.start ∨ b.stop ≤ a.start

namespace Lexeme

/-! ## One lexeme -/

/-- What is not read: white space, or a comment, which ends with its line. -/
def Idle (text : List Char) : Prop :=
  (∀ c ∈ text, c ∈ [' ', '\t', '\r', '\n']) ∨ ∃ more, text = '-' :: '-' :: more ∧ '\n' ∉ more

theorem idle_of_isSpace {text : List Char} (h : ∀ c ∈ text, isSpace c = true) : Idle text := by
  refine .inl fun c hc => ?_
  rcases isSpace_iff.1 (h c hc) with rfl | rfl | rfl | rfl <;> decide

theorem stringBody_prefix (cs : List Char) : stringBody cs <+: cs := by
  fun_induction stringBody cs with
  | case5 c rest _ ih => exact (List.prefix_cons_inj _).2 ((List.prefix_cons_inj c).2 ih)
  | case6 rest c _ _ _ ih => exact (List.prefix_cons_inj _).2 ih
  | _ => exact List.nil_prefix

/-- A string ends at its first quote, whatever comes after it. -/
theorem stringBody_closed {cs tail : List Char}
    (h : cs.drop (stringBody cs).length = '"' :: tail) (tail' : List Char) :
    stringBody (stringBody cs ++ '"' :: tail') = stringBody cs := by
  fun_induction stringBody cs with
  | case1 => exact absurd h nofun
  | case2 => rfl
  | case3 => exact absurd (List.cons.inj h).1 (by decide)
  | case4 => exact absurd (List.cons.inj h).1 (by decide)
  | case5 c rest hline ih =>
    show stringBody ('\\' :: c :: (stringBody rest ++ '"' :: tail')) = _
    rw [stringBody, if_neg hline, ih h]
  | case6 c rest hquote hlast hescape ih =>
    have hslash : c ≠ '\\' := by
      rintro rfl
      cases rest with
      | nil => exact hlast rfl rfl
      | cons d more => exact hescape d more rfl rfl
    show stringBody (c :: (stringBody rest ++ '"' :: tail')) = _
    rw [stringBody, ih h]
    · exact hquote
    · exact fun hc _ => hslash hc
    · exact fun _ _ hc _ => hslash hc

/-- What holds of the lexeme that starts with `c` and goes on in `rest`: it is a
piece of the text, it is idle if it is skipped, and if it is a token it is so
without what follows. -/
structure Fair (c : Char) (rest : List Char) (l : List Char × Reading) : Prop where
  piece : l.1 <+: rest
  idle : l.2 = .skipped → Idle (c :: l.1)
  alone : ∀ t, l.2 = .token t → continued c l.1 = l

theorem Fair.fault {c : Char} {more rest : List Char} {message : String} (h : more <+: rest) :
    Fair c rest (more, .fault message) :=
  ⟨h, nofun, nofun⟩

theorem Fair.token {c : Char} {more rest : List Char} {t : Token} (h : more <+: rest)
    (halone : continued c more = (more, .token t)) : Fair c rest (more, .token t) :=
  ⟨h, nofun, fun _ _ => halone⟩

theorem bounds_nil : Bounds [] := nofun

/-- Digits are read as an integer or are at fault, whatever follows them. -/
theorem Fair.integer {c : Char} {more rest : List Char} (h : more <+: rest)
    (halone : continued c more = (more, integer (c :: more))) :
    Fair c rest (more, integer (c :: more)) := by
  refine ⟨h, fun hskipped => ?_, fun _ _ => halone⟩
  unfold Lexeme.integer at hskipped
  split at hskipped
  · split at hskipped <;> cases hskipped
  · cases hskipped

theorem continued_unclosed {cs : List Char}
    (h : ∀ tail, cs.drop (stringBody cs).length ≠ '"' :: tail) :
    continued '"' cs = (stringBody cs, .fault "unterminated string") := by
  have hclasses : isSpace '"' = false ∧ startsWord '"' = false ∧ '"'.isDigit = false := by decide
  unfold continued
  rw [hclasses.1, hclasses.2.1, hclasses.2.2]
  simp only [Bool.false_eq_true, if_false]

theorem fair_string (rest : List Char) : Fair '"' rest (continued '"' rest) := by
  have hbody := stringBody_prefix rest
  by_cases hclosed : ∃ tail, rest.drop (stringBody rest).length = '"' :: tail
  · obtain ⟨tail, htail⟩ := hclosed
    have hrest : rest = stringBody rest ++ '"' :: tail := by
      rw [← htail]
      exact (List.prefix_iff_eq_append.1 hbody).symm
    have halone := stringBody_closed htail []
    rw [continued_closed htail]
    refine .token ⟨tail, ?_⟩ ?_
    · rw [List.append_assoc]
      exact hrest.symm
    · have hdrop : (stringBody rest ++ ['"']).drop (stringBody (stringBody rest ++ ['"'])).length =
          ['"'] := by
        rw [halone, List.drop_left]
      rw [continued_closed hdrop, halone]
  · rw [continued_unclosed fun tail htail => hclosed ⟨tail, htail⟩]
    exact .fault hbody

theorem fair_continued (c : Char) (rest : List Char) : Fair c rest (continued c rest) := by
  by_cases hquote : c = '"'
  · rw [hquote]
    exact fair_string rest
  have htake : ∀ p : Char → Bool, rest.takeWhile p <+: rest ∧ ∀ d ∈ rest.takeWhile p, p d = true :=
    fun p => ⟨List.takeWhile_prefix p, fun _ => List.mem_takeWhile_imp⟩
  fun_cases continued c rest
  case case1 hspace =>
    refine ⟨(htake _).1, fun _ => idle_of_isSpace ?_, nofun⟩
    exact List.forall_mem_cons.2 ⟨hspace, (htake _).2⟩
  case case2 hword _ =>
    refine .token (htake _).1 ?_
    have halone := continued_word hword (htake continuesWord).2 bounds_nil
    rwa [List.append_nil] at halone
  case case3 hdigit _ =>
    refine .integer (htake _).1 ?_
    have halone := continued_digits hdigit (htake Char.isDigit).2 bounds_nil
    rwa [List.append_nil] at halone
  case case4 => exact absurd rfl hquote
  case case5 => exact absurd rfl hquote
  case case6 tail _ _ _ =>
    refine ⟨(htake (· != '\n')).1, fun _ => .inr ⟨tail.takeWhile (· != '\n'), rfl, ?_⟩, nofun⟩
    intro hline
    exact absurd (List.mem_takeWhile_imp hline) (by decide)
  case case8 d tail _ _ hdigit _ _ _ =>
    refine .integer (htake _).1 ?_
    have hmore : (d :: tail).takeWhile Char.isDigit ≠ [] := by
      rw [List.takeWhile_cons_of_pos hdigit]
      exact List.cons_ne_nil _ _
    have halone := continued_minus hmore (htake Char.isDigit).2 bounds_nil
    rwa [List.append_nil] at halone
  case case9 => exact .fault List.nil_prefix
  case case21 => exact .fault List.nil_prefix
  -- the symbols, of two characters and of one
  case case7 tail _ _ _ => exact .token (List.prefix_append ['>'] tail) rfl
  case case10 tail _ _ _ => exact .token (List.prefix_append ['='] tail) rfl
  case case11 tail _ _ _ => exact .token (List.prefix_append ['='] tail) rfl
  case case12 tail _ _ _ => exact .token (List.prefix_append ['='] tail) rfl
  all_goals exact .token List.nil_prefix rfl

/-! ## All lexemes -/

/-- Nothing is lost between lexemes. -/
theorem flatMap_text_cut (cs : List Char) : (cut cs).flatMap Lexeme.text = cs := by
  induction cs using cut.induct with
  | case1 => rw [cut, List.flatMap_nil]
  | case2 c rest more reading hcontinued ih =>
    have hpiece := (fair_continued c rest).piece
    rw [hcontinued] at hpiece
    have hrest : more ++ rest.drop more.length = rest := List.prefix_iff_eq_append.1 hpiece
    rw [cut, hcontinued]
    show c :: more ++ (cut (rest.drop more.length)).flatMap Lexeme.text = c :: rest
    rw [ih, List.cons_append, hrest]

theorem exists_of_mem_cut {cs : List Char} {l : Lexeme} (h : l ∈ cut cs) :
    ∃ c more rest, l.text = c :: more ∧ continued c rest = (more, l.reading) := by
  induction cs using cut.induct with
  | case1 =>
    rw [cut] at h
    exact absurd h List.not_mem_nil
  | case2 c rest more reading hcontinued ih =>
    rw [cut, hcontinued] at h
    rcases List.mem_cons.1 h with rfl | h
    · exact ⟨c, more, rest, rfl, hcontinued⟩
    · exact ih h

theorem text_ne_nil_of_mem_cut {cs : List Char} {l : Lexeme} (h : l ∈ cut cs) : l.text ≠ [] := by
  obtain ⟨c, more, rest, htext, -⟩ := exists_of_mem_cut h
  rw [htext]
  exact List.cons_ne_nil c more

theorem idle_of_mem_cut {cs : List Char} {l : Lexeme} (h : l ∈ cut cs)
    (hskipped : l.reading = .skipped) : Idle l.text := by
  obtain ⟨c, more, rest, htext, hcontinued⟩ := exists_of_mem_cut h
  have hidle := (fair_continued c rest).idle
  rw [hcontinued] at hidle
  rw [htext]
  exact hidle hskipped

/-- The text of a token is cut into that token alone. -/
theorem cut_text_of_mem_cut {cs : List Char} {l : Lexeme} {t : Token} (h : l ∈ cut cs)
    (ht : l.reading = .token t) : cut l.text = [l] := by
  obtain ⟨c, more, rest, htext, hcontinued⟩ := exists_of_mem_cut h
  have halone := (fair_continued c rest).alone
  rw [hcontinued] at halone
  rw [htext, cut, halone t ht]
  show ⟨c :: more, l.reading⟩ :: cut (more.drop more.length) = [l]
  rw [List.drop_length, cut, ← htext]

/-! ## Where lexemes stand -/

theorem byteLength_pos {cs : List Char} (h : cs ≠ []) : 0 < byteLength cs := by
  cases cs with
  | nil => exact absurd rfl h
  | cons c rest =>
    rw [byteLength]
    exact Nat.add_pos_left c.utf8Size_pos _

variable {ls : List Lexeme} {r : Spanned Reading} {offset : Nat}

/-- Each lexeme stands behind the texts of those before it. -/
theorem exists_of_mem_locate (h : r ∈ locate offset ls) :
    ∃ l ∈ ls, ∃ before after, ls.flatMap Lexeme.text = before ++ l.text ++ after ∧
      r = ⟨l.reading, ⟨offset + byteLength before, offset + byteLength (before ++ l.text)⟩⟩ := by
  induction ls generalizing offset with
  | nil => exact absurd h List.not_mem_nil
  | cons l rest ih =>
    rcases List.mem_cons.1 h with rfl | h
    · exact ⟨l, List.mem_cons_self, [], rest.flatMap Lexeme.text, rfl, rfl⟩
    · obtain ⟨l', hl', before, after, htext, rfl⟩ := ih h
      refine ⟨l', List.mem_cons_of_mem _ hl', l.text ++ before, after, ?_, ?_⟩
      · rw [List.flatMap_cons, htext]
        simp only [List.append_assoc]
      · simp only [byteLength_append, Nat.add_assoc]

theorem start_le_of_mem_locate (h : r ∈ locate offset ls) : offset ≤ r.span.start := by
  obtain ⟨l, -, before, after, -, rfl⟩ := exists_of_mem_locate h
  exact Nat.le_add_right offset _

/-- Lexemes do not overlap. -/
theorem pairwise_locate (ls : List Lexeme) (offset : Nat) :
    (locate offset ls).Pairwise fun a b => a.span.stop ≤ b.span.start := by
  induction ls generalizing offset with
  | nil => exact .nil
  | cons l rest ih => exact List.pairwise_cons.2 ⟨fun _ => start_le_of_mem_locate, ih _⟩

/-- No byte is between lexemes. -/
theorem exists_mem_locate {i : Nat} (h : offset ≤ i)
    (hi : i < offset + byteLength (ls.flatMap Lexeme.text)) :
    ∃ r ∈ locate offset ls, r.span.Has i := by
  induction ls generalizing offset with
  | nil => exact absurd hi (Nat.not_lt.2 h)
  | cons l rest ih =>
    rw [List.flatMap_cons, byteLength_append, ← Nat.add_assoc] at hi
    by_cases hfirst : i < offset + byteLength l.text
    · exact ⟨_, List.mem_cons_self, h, hfirst⟩
    · obtain ⟨r, hr, hhas⟩ := ih (Nat.not_lt.1 hfirst) hi
      exact ⟨r, List.mem_cons_of_mem _ hr, hhas⟩

end Lexeme

/-! ## Texts in a source -/

/-- Whether a text stands at a span of a source: its bytes are those of the span,
which begins and ends between characters. -/
def Stands (source text : String) (span : Span) : Prop :=
  ∃ before after, source = before ++ text ++ after ∧
    span = ⟨before.utf8ByteSize, (before ++ text).utf8ByteSize⟩

theorem eq_of_append_eq {before rest before' rest' : String}
    (h : before ++ rest = before' ++ rest') (hsize : before.utf8ByteSize = before'.utf8ByteSize) :
    before = before' := by
  -- of two beginnings one begins with the other, and no bytes are left to go on
  have hnil : ∀ {a b : String} {more : List Char}, a.toList = b.toList ++ more →
      a.utf8ByteSize = b.utf8ByteSize → a = b := by
    intro a b more hmore hab
    have ha : a = b ++ String.ofList more := by
      rw [← String.toList_inj, hmore, String.toList_append, String.toList_ofList]
    rw [ha, String.utf8ByteSize_append, ← Lexeme.byteLength_eq, Nat.add_eq_left] at hab
    have hempty : more = [] := Classical.byContradiction fun hne =>
      (Lexeme.byteLength_pos hne).ne' hab
    rw [ha, hempty]
    exact String.append_empty
  have hlist := congrArg String.toList h
  rw [String.toList_append, String.toList_append, List.append_eq_append_iff] at hlist
  rcases hlist with ⟨more, hmore, -⟩ | ⟨more, hmore, -⟩
  · exact (hnil hmore hsize.symm).symm
  · exact hnil hmore hsize

/-- One text stands at a span. -/
theorem Stands.unique {source text text' : String} {span : Span} (h : Stands source text span)
    (h' : Stands source text' span) : text = text' := by
  obtain ⟨before, after, hsource, hspan⟩ := h
  obtain ⟨before', after', hsource', hspan'⟩ := h'
  obtain ⟨hstart, hstop⟩ := Span.mk.inj (hspan.symm.trans hspan')
  have heq : before ++ text = before' ++ text' :=
    eq_of_append_eq (hsource.symm.trans hsource') hstop
  obtain rfl : before = before' := eq_of_append_eq heq hstart
  exact String.append_right_inj before |>.1 heq

/-- Each reading is that of a lexeme, and stands where its text does. -/
theorem exists_of_mem_readings {source : String} {r : Spanned Reading} (h : r ∈ readings source) :
    ∃ l ∈ Lexeme.cut source.toList, l.reading = r.node ∧
      Stands source (String.ofList l.text) r.span := by
  obtain ⟨l, hl, before, after, htext, rfl⟩ := Lexeme.exists_of_mem_locate h
  rw [Lexeme.flatMap_text_cut] at htext
  refine ⟨l, hl, rfl, String.ofList before, String.ofList after, ?_, ?_⟩
  · rw [← String.ofList_append, ← String.ofList_append, ← htext, String.ofList_toList]
  · simp only [Nat.zero_add, Lexeme.byteLength_eq, String.ofList_append]

theorem pairwise_readings (source : String) :
    (readings source).Pairwise fun a b => a.span.stop ≤ b.span.start :=
  Lexeme.pairwise_locate _ 0

theorem start_lt_stop_of_mem_readings {source : String} {r : Spanned Reading}
    (h : r ∈ readings source) : r.span.start < r.span.stop := by
  obtain ⟨l, hl, before, after, -, rfl⟩ := Lexeme.exists_of_mem_locate h
  show 0 + Lexeme.byteLength before < 0 + Lexeme.byteLength (before ++ l.text)
  rw [Lexeme.byteLength_append, ← Nat.add_assoc]
  exact Nat.lt_add_of_pos_right (Lexeme.byteLength_pos (Lexeme.text_ne_nil_of_mem_cut hl))

/-! ## What is read, in order -/

/-- What is read of a source: its tokens and its faults, in the order of the
text. -/
def entries (source : String) : List (Spanned Reading) :=
  (readings source).filter (·.node != .skipped)

theorem mem_entries {source : String} {r : Spanned Reading} :
    r ∈ entries source ↔ r ∈ readings source ∧ r.node ≠ .skipped := by
  rw [entries, List.mem_filter, bne_iff_ne]

theorem pairwise_entries (source : String) :
    (entries source).Pairwise fun a b => a.span.stop ≤ b.span.start :=
  (pairwise_readings source).sublist List.filter_sublist

/-- What is skipped is no token and no fault. -/
theorem filterMap_entries {α : Type} {f : Spanned Reading → Option α}
    (hf : ∀ span, f ⟨.skipped, span⟩ = none) (source : String) :
    (readings source).filterMap f = (entries source).filterMap f := by
  have hfilter := Mark.readings_filterMap hf source.toList
  rw [String.ofList_toList] at hfilter
  exact hfilter

theorem tokens_eq (source : String) :
    tokens source = (entries source).filterMap Reading.token? :=
  filterMap_entries (fun _ => rfl) source

theorem lexicalFaults_eq (source : String) :
    lexicalFaults source = (entries source).filterMap Reading.fault? :=
  filterMap_entries (fun _ => rfl) source

theorem Reading.eq_of_token? {r : Spanned Reading} {t : Spanned Token}
    (h : Reading.token? r = some t) : r = ⟨.token t.node, t.span⟩ := by
  obtain ⟨node, span⟩ := r
  cases node with
  | token value =>
    obtain rfl := Option.some.inj h
    rfl
  | _ => exact absurd h nofun

theorem Reading.eq_of_fault? {r : Spanned Reading} {f : Spanned String}
    (h : Reading.fault? r = some f) : r = ⟨.fault f.node, f.span⟩ := by
  obtain ⟨node, span⟩ := r
  cases node with
  | fault message =>
    obtain rfl := Option.some.inj h
    rfl
  | _ => exact absurd h nofun

/-- What is picked from readings, each where it stood, is in their order. -/
theorem pairwise_filterMap_readings {α : Type} {f : Spanned Reading → Option (Spanned α)}
    (hf : ∀ r a, f r = some a → a.span = r.span) (source : String) :
    ((readings source).filterMap f).Pairwise fun a b => a.span.stop ≤ b.span.start := by
  rw [List.pairwise_filterMap]
  refine (pairwise_readings source).imp fun {r r'} hle a ha b hb => ?_
  rw [hf r a ha, hf r' b hb]
  exact hle

theorem pairwise_tokens (source : String) :
    (tokens source).Pairwise fun a b => a.span.stop ≤ b.span.start :=
  pairwise_filterMap_readings (fun _ _ h => by rw [Reading.eq_of_token? h]) source

theorem pairwise_lexicalFaults (source : String) :
    (lexicalFaults source).Pairwise fun a b => a.span.stop ≤ b.span.start :=
  pairwise_filterMap_readings (fun _ _ h => by rw [Reading.eq_of_fault? h]) source

theorem mem_readings_of_mem_tokens {source : String} {t : Spanned Token} (h : t ∈ tokens source) :
    ⟨.token t.node, t.span⟩ ∈ readings source := by
  obtain ⟨r, hr, htoken⟩ := List.mem_filterMap.1 h
  rwa [← Reading.eq_of_token? htoken]

/-- The text of a token is read as that token and no more. -/
theorem readings_text_of_mem_tokens {source text : String} {t : Spanned Token}
    (h : t ∈ tokens source) (htext : Stands source text t.span) :
    readings text = [⟨.token t.node, ⟨0, text.utf8ByteSize⟩⟩] := by
  obtain ⟨l, hl, hreading, hstands⟩ := exists_of_mem_readings (mem_readings_of_mem_tokens h)
  obtain rfl : text = String.ofList l.text := htext.unique hstands
  rw [readings, String.toList_ofList, Lexeme.cut_text_of_mem_cut hl hreading]
  show [(⟨l.reading, ⟨0, 0 + Lexeme.byteLength l.text⟩⟩ : Spanned Reading)] = _
  rw [hreading, Nat.zero_add, Lexeme.byteLength_eq]

/-- A byte is read, or it is in a text that is idle and that nothing read meets. -/
theorem read_or_idle {source : String} {i : Nat} (hi : i < source.utf8ByteSize) :
    (∃ r ∈ entries source, r.span.Has i) ∨
    ∃ text span, Stands source text span ∧ Lexeme.Idle text.toList ∧ span.Has i ∧
      ∀ r ∈ entries source, r.span.Apart span := by
  have hbytes : i < 0 + Lexeme.byteLength ((Lexeme.cut source.toList).flatMap Lexeme.text) := by
    rwa [Lexeme.flatMap_text_cut, Lexeme.byteLength_eq, String.ofList_toList, Nat.zero_add]
  obtain ⟨r, hr, hhas⟩ := Lexeme.exists_mem_locate (Nat.zero_le i) hbytes
  by_cases hskipped : r.node = .skipped
  · obtain ⟨l, hl, hreading, hstands⟩ := exists_of_mem_readings hr
    refine .inr ⟨String.ofList l.text, r.span, hstands, ?_, hhas, fun r' hr' => ?_⟩
    · rw [String.toList_ofList]
      exact Lexeme.idle_of_mem_cut hl (hreading.trans hskipped)
    · obtain ⟨hmem, hread⟩ := mem_entries.1 hr'
      have hne : r' ≠ r := fun heq => hread (heq ▸ hskipped)
      have hapart : (readings source).Pairwise fun a b => a.span.Apart b.span :=
        (pairwise_readings source).imp .inl
      have hsymm : Std.Symm fun a b : Spanned Reading => a.span.Apart b.span :=
        ⟨fun _ _ => Or.symm⟩
      exact hapart.forall hmem hr hne
  · exact .inl ⟨r, mem_entries.2 ⟨hr, hskipped⟩, hhas⟩

/-! ## The whole source -/

/-- What it is for a source to be accounted for, byte by byte. -/
structure Accounted (source : String) : Prop where
  /-- What is read is the tokens and the faults, -/
  tokens : tokens source = (entries source).filterMap Reading.token?
  faults : lexicalFaults source = (entries source).filterMap Reading.fault?
  read : ∀ r ∈ entries source, r.node ≠ .skipped
  /-- each of whole characters, and of some, -/
  whole : ∀ r ∈ entries source, r.span.start < r.span.stop ∧ ∃ text, Stands source text r.span
  /-- one behind the other. -/
  ordered : (entries source).Pairwise fun a b => a.span.stop ≤ b.span.start
  orderedTokens : (Script.tokens source).Pairwise fun a b => a.span.stop ≤ b.span.start
  orderedFaults : (lexicalFaults source).Pairwise fun a b => a.span.stop ≤ b.span.start
  /-- No other byte is more than white space or part of a comment. -/
  idle : ∀ i < source.utf8ByteSize, (∀ r ∈ entries source, ¬r.span.Has i) →
    ∃ text span, Stands source text span ∧ Lexeme.Idle text.toList ∧ span.Has i ∧
      ∀ r ∈ entries source, r.span.Apart span
  /-- The first fault is what is reported. -/
  leftmost : ∀ fault others, lexicalFaults source = fault :: others →
    compile source = .error (.unreadableIn source fault) ∧
    ∀ other ∈ others, fault.span.stop ≤ other.span.start
  /-- A token is read of its own text alone. -/
  alone : ∀ t ∈ Script.tokens source, ∀ text, Stands source text t.span →
    Script.tokens text = [⟨t.node, ⟨0, text.utf8ByteSize⟩⟩] ∧ lexicalFaults text = []

/-- Whatever a source is, every byte of it is a byte of one token or of one
fault, or is skipped. -/
theorem accounts_for_source (source : String) : Accounted source where
  tokens := tokens_eq source
  faults := lexicalFaults_eq source
  read r hr := (mem_entries.1 hr).2
  whole r hr := by
    have hmem := (mem_entries.1 hr).1
    obtain ⟨l, -, -, hstands⟩ := exists_of_mem_readings hmem
    exact ⟨start_lt_stop_of_mem_readings hmem, _, hstands⟩
  ordered := pairwise_entries source
  orderedTokens := pairwise_tokens source
  orderedFaults := pairwise_lexicalFaults source
  idle i hi hunread := by
    rcases read_or_idle hi with ⟨r, hr, hhas⟩ | hidle
    · exact absurd hhas (hunread r hr)
    · exact hidle
  leftmost fault others hfaults := by
    have hordered := pairwise_lexicalFaults source
    rw [hfaults] at hordered
    refine ⟨?_, (List.pairwise_cons.1 hordered).1⟩
    unfold compile
    rw [hfaults]
  alone t ht text htext := by
    have hreadings := readings_text_of_mem_tokens ht htext
    rw [Script.tokens, lexicalFaults, hreadings]
    exact ⟨rfl, rfl⟩

/-- A string that goes on over a line, a lone sign, an integer that is too large,
and a string that is not closed. -/
example :
    (entries "go\t\"a\nb\"-- é\n- 99999999999999999999 \"é\\\n").map (·.span) =
      [⟨0, 2⟩, ⟨3, 8⟩, ⟨14, 15⟩, ⟨16, 36⟩, ⟨37, 40⟩, ⟨40, 41⟩] := by
  decide +kernel

end Script
end TextAdventure
