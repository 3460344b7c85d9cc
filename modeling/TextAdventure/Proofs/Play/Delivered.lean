/-
Commands that are delivered.

Commands are asked for one at a time, and each time lines are taken until one of
them has words in it, or cannot be read, or none is left.  It makes no difference
where the lines come from.  So it is the same whether a text is read line by line
or its pieces are given as a list.
-/
import TextAdventure.Proofs.Play.Entered
import TextAdventure.Proofs.Text.Pieces

namespace TextAdventure

open Text

namespace Input

/-- The lines that are taken for one command of plain input, what is given for
them, and the lines that are left. -/
inductive Takes (v : Vocabulary) : List Line → Except Fault (Option Command) → List Line → Prop
  | ended (skipped : List String) (hskipped : ∀ line ∈ skipped, (v.parse line).isEmpty = true) :
      Takes v (skipped.map .ok) (.ok none) []
  | command (skipped : List String) (hskipped : ∀ line ∈ skipped, (v.parse line).isEmpty = true)
      (line : String) (hline : (v.parse line).isEmpty = false) (rest : List Line) :
      Takes v (skipped.map .ok ++ .ok line :: rest) (.ok (some (v.parse line))) rest
  | unreadable (skipped : List String) (hskipped : ∀ line ∈ skipped, (v.parse line).isEmpty = true)
      (cause : Unreadable) (rest : List Line) :
      Takes v (skipped.map .ok ++ .error cause :: rest) (.error (.unreadable cause)) rest

/-- A line without words is skipped, whatever is taken after it. -/
theorem Takes.skip {v : Vocabulary} {lines rest : List Line} {answer : Except Fault (Option Command)}
    (h : Takes v lines answer rest) {line : String} (hline : (v.parse line).isEmpty = true) :
    Takes v (.ok line :: lines) answer rest := by
  cases h with
  | ended skipped hskipped =>
    exact .ended (line :: skipped) (List.forall_mem_cons.2 ⟨hline, hskipped⟩)
  | command skipped hskipped spoken hspoken rest =>
    exact .command (line :: skipped) (List.forall_mem_cons.2 ⟨hline, hskipped⟩) spoken hspoken rest
  | unreadable skipped hskipped cause rest =>
    exact .unreadable (line :: skipped) (List.forall_mem_cons.2 ⟨hline, hskipped⟩) cause rest

theorem takes_next (v : Vocabulary) (lines : List Line) :
    Takes v lines ((plain v).next lines).1 ((plain v).next lines).2 := by
  induction lines with
  | nil => exact .ended [] nofun
  | cons line rest ih =>
    cases line with
    | error cause => exact .unreadable [] nofun cause rest
    | ok text =>
      rw [next, plain_take]
      cases hempty : (v.parse text).isEmpty with
      | true => exact ih.skip hempty
      | false => exact .command [] nofun text hempty rest

/-! ## Call after call -/

/-- What an input delivers from lines, one command at a time: the commands, the
fault that ends them if one does, and the lines that are left. -/
inductive Delivers (input : Input) :
    List Line → List Command → Option Fault → List Line → Prop
  | ended {lines rest} (hnext : input.next lines = (.ok none, rest)) :
      Delivers input lines [] none rest
  | failed {lines fault rest} (hnext : input.next lines = (.error fault, rest)) :
      Delivers input lines [] (some fault) rest
  | command {lines command rest others fault left}
      (hnext : input.next lines = (.ok (some command), rest))
      (hrest : Delivers input rest others fault left) :
      Delivers input lines (command :: others) fault left

variable {input : Input} {v : Vocabulary} {lines left left' : List Line}
  {commands commands' : List Command} {fault fault' : Option Fault}

theorem Delivers.unique (h : Delivers input lines commands fault left)
    (h' : Delivers input lines commands' fault' left') :
    commands = commands' ∧ fault = fault' ∧ left = left' := by
  induction h generalizing commands' fault' left' with
  | ended hnext =>
    cases h' with
    | ended hnext' =>
      cases hnext.symm.trans hnext'
      exact ⟨rfl, rfl, rfl⟩
    | failed hnext' => cases hnext.symm.trans hnext'
    | command hnext' hrest' => cases hnext.symm.trans hnext'
  | failed hnext =>
    cases h' with
    | ended hnext' => cases hnext.symm.trans hnext'
    | failed hnext' =>
      cases hnext.symm.trans hnext'
      exact ⟨rfl, rfl, rfl⟩
    | command hnext' hrest' => cases hnext.symm.trans hnext'
  | command hnext hrest ih =>
    cases h' with
    | ended hnext' => cases hnext.symm.trans hnext'
    | failed hnext' => cases hnext.symm.trans hnext'
    | command hnext' hrest' =>
      cases hnext.symm.trans hnext'
      obtain ⟨rfl, rfl, rfl⟩ := ih hrest'
      exact ⟨rfl, rfl, rfl⟩

/-- Two ways to deliver the same agree on everything that may be delivered. -/
theorem Delivers.iff {input' : Input} {lines' : List Line}
    (h : Delivers input lines commands fault left)
    (h' : Delivers input' lines' commands fault left) (commands' : List Command)
    (fault' : Option Fault) (left' : List Line) :
    Delivers input lines commands' fault' left' ↔
      Delivers input' lines' commands' fault' left' := by
  constructor
  · intro hother
    obtain ⟨rfl, rfl, rfl⟩ := h.unique hother
    exact h'
  · intro hother
    obtain ⟨rfl, rfl, rfl⟩ := h'.unique hother
    exact h

theorem Delivers.of_next_eq {lines' : List Line} (h : Delivers input lines commands fault left)
    (hnext : input.next lines' = input.next lines) :
    Delivers input lines' commands fault left := by
  cases h with
  | ended hended => exact .ended (hnext.trans hended)
  | failed hfailed => exact .failed (hnext.trans hfailed)
  | command hcommand hrest => exact .command (hnext.trans hcommand) hrest

/-- The parses of lines, less the empty ones. -/
def spoken (v : Vocabulary) (texts : List String) : List Command :=
  (texts.map v.parse).filter (!·.isEmpty)

/-- Lines that can be read give what is spoken in them, and then what follows
them is given. -/
theorem Delivers.after_texts (h : Delivers (plain v) lines commands fault left)
    (texts : List String) :
    Delivers (plain v) (texts.map .ok ++ lines) (spoken v texts ++ commands) fault left := by
  induction texts with
  | nil => exact h
  | cons text rest ih =>
    rw [List.map_cons, List.cons_append, spoken, List.map_cons]
    cases hempty : (v.parse text).isEmpty with
    | true =>
      rw [List.filter_cons_of_neg (by simp [hempty])]
      refine ih.of_next_eq ?_
      rw [next, plain_take, if_pos hempty]
    | false =>
      rw [List.filter_cons_of_pos (by simp [hempty])]
      refine .command ?_ ih
      rw [next, plain_take, if_neg (Bool.eq_false_iff.1 hempty)]

theorem delivers_texts (v : Vocabulary) (texts : List String) :
    Delivers (plain v) (texts.map .ok) (spoken v texts) none [] := by
  have hnil : Delivers (plain v) [] [] none [] := .ended rfl
  have h := hnil.after_texts texts
  rwa [List.append_nil, List.append_nil] at h

theorem delivers_unreadable (v : Vocabulary) (texts : List String) (cause : Unreadable)
    (rest : List Line) :
    Delivers (plain v) (texts.map .ok ++ .error cause :: rest) (spoken v texts)
      (some (.unreadable cause)) rest := by
  have herror : Delivers (plain v) (.error cause :: rest) [] (some (.unreadable cause)) rest :=
    .failed rfl
  have h := herror.after_texts texts
  rwa [List.append_nil] at h

/-! ## Lines and pieces -/

/-- The line feed that ends a line is no part of its tokens. -/
theorem parse_terminated (v : Vocabulary) (cs : List Char) :
    v.parse (String.ofList (cs ++ ['\n'])) = v.parse (String.ofList cs) := by
  have hnewline : isBlank '\n' = true := by decide
  have hnil : Vocabulary.pieces [] = [] := by decide
  have htokens : Vocabulary.tokens (String.ofList (cs ++ ['\n'])) =
      Vocabulary.tokens (String.ofList cs) := by
    rw [Vocabulary.tokens_eq, Vocabulary.tokens_eq, String.toList_ofList, String.toList_ofList,
      Vocabulary.pieces_append_cons hnewline, hnil, List.append_nil]
  rw [Vocabulary.parse, htokens]
  rfl

theorem spoken_terminate (v : Vocabulary) (pieces : List (List Char)) :
    spoken v ((terminate pieces).map String.ofList) = spoken v (pieces.map String.ofList) := by
  induction pieces with
  | nil => rfl
  | cons piece rest ih =>
    cases rest with
    | nil =>
      rw [terminate]
      split
      · next hpiece =>
        rw [hpiece]
        have hnil : Vocabulary.tokens (String.ofList []) = [] := by decide
        simp [spoken, Vocabulary.parse, Command.isEmpty, hnil]
      · rfl
    | cons next others =>
      rw [terminate_cons (List.cons_ne_nil _ _)]
      simp only [spoken, List.map_cons, List.filter_cons, parse_terminated] at ih ⊢
      rw [ih]

/-- Lines of bytes are texts, or there is a first one that is not. -/
theorem texts_or_exists_not_text (lines : List (List UInt8)) :
    (∃ texts : List String, lines = texts.map encode) ∨
      ∃ (texts : List String) (bad : List UInt8) (after : List (List UInt8)),
        lines = texts.map encode ++ bad :: after ∧ ∀ text, encode text ≠ bad := by
  induction lines with
  | nil => exact .inl ⟨[], rfl⟩
  | cons line rest ih =>
    cases hdecode : decode line with
    | none => exact .inr ⟨[], line, rest, rfl, decode_eq_none_iff.1 hdecode⟩
    | some text =>
      rcases ih with ⟨texts, rfl⟩ | ⟨texts, bad, after, rfl, hbad⟩
      · exact .inl ⟨text :: texts, by rw [List.map_cons, encode_of_decode hdecode]⟩
      · refine .inr ⟨text :: texts, bad, after, ?_, hbad⟩
        rw [List.map_cons, encode_of_decode hdecode]
        rfl

theorem map_lineOfBytes_encode (texts : List String) :
    (texts.map encode).map lineOfBytes = texts.map .ok := by
  rw [List.map_map]
  refine List.map_congr_left fun text _ => ?_
  rw [Function.comp_apply, lineOfBytes, decode_encode]

/-- Of bytes, the lines before the first that is not text are delivered, less the
empty ones, and that line is the fault there is.  Of a text, the same is delivered
as of a list of its pieces.  And each time lines are taken from the front, up to
the first that is not empty. -/
theorem lines_delivered (v : Vocabulary) :
    (∀ bytes, SplitAfter bytes (byteLines bytes) ∧
      ((∃ texts, byteLines bytes = texts.map encode ∧
          Delivers (plain v) (linesOfBytes bytes) (spoken v texts) none []) ∨
        ∃ texts bad after, byteLines bytes = texts.map encode ++ bad :: after ∧
          (∀ text, encode text ≠ bad) ∧
          Delivers (plain v) (linesOfBytes bytes) (spoken v texts)
            (some (.unreadable .notText)) (after.map lineOfBytes))) ∧
    (∀ text, "\n".intercalate (linePieces text) = text ∧
      (∀ piece ∈ linePieces text, '\n' ∉ piece.toList) ∧
      Delivers (plain v) ((linePieces text).map .ok) (spoken v (linePieces text)) none [] ∧
      ∀ commands fault left,
        Delivers (plain v) (linesOfBytes (encode text)) commands fault left ↔
          Delivers (plain v) ((linePieces text).map .ok) commands fault left) ∧
    ∀ lines, Takes v lines ((plain v).next lines).1 ((plain v).next lines).2 := by
  refine ⟨fun bytes => ⟨splitAfter_byteLines bytes, ?_⟩, fun text => ⟨intercalate_linePieces text,
    fun piece => newline_not_mem_of_mem_linePieces, delivers_texts v _, ?_⟩, takes_next v⟩
  · rcases texts_or_exists_not_text (byteLines bytes) with
      ⟨texts, htexts⟩ | ⟨texts, bad, after, htexts, hbad⟩
    · refine .inl ⟨texts, htexts, ?_⟩
      rw [linesOfBytes, htexts, map_lineOfBytes_encode]
      exact delivers_texts v texts
    · refine .inr ⟨texts, bad, after, htexts, hbad, ?_⟩
      have hline : lineOfBytes bad = .error .notText := by
        rw [lineOfBytes, decode_eq_none_iff.2 hbad]
      rw [linesOfBytes, htexts, List.map_append, map_lineOfBytes_encode, List.map_cons, hline]
      exact delivers_unreadable v texts .notText _
  · have hlines : linesOfBytes (encode text) =
        ((terminate (fields (· == '\n') text.toList)).map String.ofList).map .ok := by
      rw [linesOfBytes_encode, charLines_eq_terminate, List.map_map]
      rfl
    have hline := delivers_texts v ((terminate (fields (· == '\n') text.toList)).map String.ofList)
    rw [spoken_terminate, ← hlines] at hline
    exact hline.iff (delivers_texts v (linePieces text))

end Input
end TextAdventure
