/-
Filling a template is one scan of it from left to right.

At each place the scan looks whether a place for a token begins there.  If so, it
puts the token and goes on behind it, and otherwise it copies one character.  It
needs to know nothing of what it has passed: places do not overlap, since a brace
opens a place only at its beginning.  So a template can also be filled by jumping
from one opener to the next, and every place in it is filled, whatever surrounds
it.
-/
import TextAdventure.Proofs.Template
import TextAdventure.Proofs.Text.Digits

namespace TextAdventure
namespace Template

open Text

/-- Whether a text begins with a place for the token at position `p`, and goes on
with `after`. -/
def Begins (template : List Char) (p : Nat) (after : List Char) : Prop :=
  ∃ digits, '\x7d' ∉ digits ∧ WritesWord digits p ∧
    template = "\x7bword:".toList ++ digits ++ '\x7d' :: after

/-- The scan: what it makes of a template for a command. -/
inductive Scan (command : Command) : List Char → List Char → Prop
  | done : Scan command [] []
  | token {template p after out} (h : Begins template p after) (hrest : Scan command after out) :
      Scan command template (((command.token? p).getD "").toList ++ out)
  | copy {c rest out} (h : ∀ p after, ¬ Begins (c :: rest) p after)
      (hrest : Scan command rest out) : Scan command (c :: rest) (c :: out)

/-- Where a mark first stands in a text: what comes before it and what behind. -/
def search (mark : List Char) : List Char → Option (List Char × List Char)
  | [] => none
  | c :: rest =>
    if mark <+: c :: rest then some ([], (c :: rest).drop mark.length)
    else (search mark rest).map fun (before, after) => (c :: before, after)

theorem length_of_search {mark cs before after : List Char}
    (h : search mark cs = some (before, after)) (hmark : mark ≠ []) : after.length < cs.length := by
  induction cs generalizing before with
  | nil => exact absurd h nofun
  | cons c rest ih =>
    rw [search] at h
    split at h
    · have hpos := List.length_pos_iff.2 hmark
      rw [← (Prod.mk.inj (Option.some.inj h)).2, List.length_drop, List.length_cons]
      omega
    · obtain ⟨⟨before', after'⟩, hrest, heq⟩ := Option.map_eq_some_iff.1 h
      obtain ⟨-, rfl⟩ := Prod.mk.inj heq
      exact Nat.lt_succ_of_lt (ih hrest)

/-- The position that a text names up to its first closing brace, and what comes
behind that. -/
def named (cs : List Char) : Option (Nat × List Char) :=
  (search ['\x7d'] cs).bind fun (digits, after) => (wordOfDigits digits).map (·, after)

theorem length_of_named {cs after : List Char} {p : Nat} (h : named cs = some (p, after)) :
    after.length < cs.length := by
  obtain ⟨⟨digits, behind⟩, hsearch, hp⟩ := Option.bind_eq_some_iff.1 h
  obtain ⟨n, -, heq⟩ := Option.map_eq_some_iff.1 hp
  obtain ⟨-, rfl⟩ := Prod.mk.inj heq
  exact length_of_search hsearch (List.cons_ne_nil _ _)

/-- Fill a template by jumping to the next opener.  What comes before it is copied
as it is, and so is the opener itself if no position is named behind it. -/
def fillBySearch (command : Command) (template : List Char) : List Char :=
  match _hs : search opener template with
  | none => template
  | some (before, after) =>
    match _hp : named after with
    | some (p, rest) => before ++ (((command.token? p).getD "").toList ++ fillBySearch command rest)
    | none => before ++ (opener ++ fillBySearch command after)
termination_by template.length
decreasing_by
  · exact Nat.lt_trans (length_of_named _hp) (length_of_search _hs (List.cons_ne_nil _ _))
  · exact length_of_search _hs (List.cons_ne_nil _ _)

variable {command : Command} {template rest after before digits cs out : List Char} {c : Char}
  {p : Nat}

/-! ## Where a place begins -/

theorem opening_opener (rest : List Char) : opening (opener ++ rest) = some rest := rfl

theorem head_of_opening {cs rest : List Char} (h : opening cs = some rest) :
    cs.head? = some '\x7b' := by
  rw [eq_of_opening h]
  rfl

theorem opening_of_ne (h : c ≠ '\x7b') : opening (c :: rest) = none := by
  cases ho : opening (c :: rest) with
  | none => rfl
  | some others => exact absurd (Option.some.inj (head_of_opening ho)) h

theorem position_of_writes (h : WritesWord digits p) :
    position (digits ++ '\x7d' :: after) = some (p, after) := by
  have hdigits : ∀ c ∈ digits, writesPosition c = true := by
    intro c hc
    rcases h.mem c hc with hc | rfl
    · rw [writesPosition, hc, Bool.true_or]
    · rfl
  have htake : (digits ++ '\x7d' :: after).takeWhile writesPosition = digits := by
    rw [List.takeWhile_append_of_pos hdigits, List.takeWhile_cons_of_neg (by decide),
      List.append_nil]
  have hdrop : (digits ++ '\x7d' :: after).dropWhile writesPosition = '\x7d' :: after := by
    rw [List.dropWhile_append_of_pos hdigits, List.dropWhile_cons_of_neg (by decide)]
  rw [position, htake, hdrop]
  simp only [wordOfDigits_eq_some_iff.2 h]

theorem begins_iff :
    Begins template p after ↔
      ∃ rest, opening template = some rest ∧ position rest = some (p, after) := by
  constructor
  · rintro ⟨digits, -, hwrites, rfl⟩
    refine ⟨digits ++ '\x7d' :: after, ?_, position_of_writes hwrites⟩
    rw [List.append_assoc]
    exact opening_opener _
  · rintro ⟨rest, ho, hp⟩
    obtain ⟨hrest, hdigits⟩ := eq_of_position hp
    have hwrites := wordOfDigits_eq_some_iff.1 hdigits
    refine ⟨_, hwrites.not_mem (by decide) (by decide), hwrites, ?_⟩
    rw [List.append_assoc, ← hrest]
    exact eq_of_opening ho

/-! ## One step of the scan -/

theorem fill_of_begins (h : Begins template p after) :
    fill command template = ((command.token? p).getD "").toList ++ fill command after := by
  obtain ⟨rest, ho, hp⟩ := begins_iff.1 h
  exact fill_of_position ho hp

/-- No place begins before the next opening brace. -/
theorem fill_append_of_not_mem (h : '\x7b' ∉ cs) :
    fill command (cs ++ rest) = cs ++ fill command rest := by
  induction cs with
  | nil => rfl
  | cons c others ih =>
    rw [List.mem_cons, not_or] at h
    rw [List.cons_append, fill_cons (opening_of_ne (Ne.symm h.1)), ih h.2, List.cons_append]

theorem fill_of_not_begins (h : ∀ p after, ¬ Begins (c :: rest) p after) :
    fill command (c :: rest) = c :: fill command rest := by
  cases ho : opening (c :: rest) with
  | none => exact fill_cons ho
  | some others =>
    -- an opener without a position is copied at once, and no place begins inside it
    have hp : position others = none := by
      cases hp : position others with
      | none => rfl
      | some found => exact absurd (begins_iff.2 ⟨others, ho, hp⟩) (h _ _)
    obtain ⟨rfl, rfl⟩ := List.cons.inj (eq_of_opening ho)
    rw [fill_of_opening ho hp]
    show _ = '\x7b' :: fill command ("word:".toList ++ others)
    rw [fill_append_of_not_mem (by decide)]
    rfl

/-! ## The whole scan -/

theorem length_of_begins (h : Begins template p after) : after.length < template.length := by
  obtain ⟨rest, ho, hp⟩ := begins_iff.1 h
  exact Nat.lt_trans (length_of_position hp) (length_of_opening ho)

theorem scan_fill (command : Command) (template : List Char) :
    Scan command template (fill command template) := by
  induction hn : template.length using Nat.strongRecOn generalizing template with
  | ind n ih =>
    subst hn
    by_cases h : ∃ p after, Begins template p after
    · obtain ⟨p, after, h⟩ := h
      rw [fill_of_begins h]
      exact .token h (ih _ (length_of_begins h) after rfl)
    · cases template with
      | nil =>
        rw [fill_nil]
        exact .done
      | cons c rest =>
        have hfree : ∀ p after, ¬ Begins (c :: rest) p after := fun p after hb => h ⟨p, after, hb⟩
        rw [fill_of_not_begins hfree]
        exact .copy hfree (ih _ (Nat.lt_succ_self _) rest rfl)

theorem Scan.eq_fill (h : Scan command template out) : out = fill command template := by
  induction h with
  | done => exact (fill_nil command).symm
  | token h hrest ih => rw [fill_of_begins h, ih]
  | copy h hrest ih => rw [fill_of_not_begins h, ih]

/-! ## Searching -/

theorem eq_of_search {mark : List Char} (h : search mark cs = some (before, after)) :
    cs = before ++ mark ++ after := by
  induction cs generalizing before with
  | nil => exact absurd h nofun
  | cons c rest ih =>
    rw [search] at h
    split at h
    · next hmark =>
      obtain ⟨rfl, rfl⟩ := Prod.mk.inj (Option.some.inj h)
      obtain ⟨others, hothers⟩ := hmark
      rw [← hothers, List.drop_left, List.nil_append]
    · obtain ⟨⟨before', after'⟩, hrest, heq⟩ := Option.map_eq_some_iff.1 h
      obtain ⟨rfl, rfl⟩ := Prod.mk.inj heq
      rw [ih hrest, List.cons_append, List.cons_append]

/-- The first place of a character is the one before which it does not stand. -/
theorem search_of_not_mem {x : Char} (h : x ∉ before) :
    search [x] (before ++ x :: after) = some (before, after) := by
  induction before with
  | nil =>
    rw [List.nil_append, search, if_pos (List.cons_prefix_cons.2 ⟨rfl, List.nil_prefix⟩)]
    rfl
  | cons c rest ih =>
    rw [List.mem_cons, not_or] at h
    have hmark : ¬ [x] <+: c :: (rest ++ x :: after) := fun hmark =>
      h.1 (List.cons_prefix_cons.1 hmark).1
    rw [List.cons_append, search, if_neg hmark, ih h.2]
    rfl

/-- A position is named by all that stands before the first closing brace, or not
at all. -/
theorem named_eq_position (cs : List Char) : named cs = position cs := by
  refine Option.ext fun found => ?_
  obtain ⟨p, after⟩ := found
  constructor
  · intro h
    obtain ⟨⟨digits, behind⟩, hsearch, hp⟩ := Option.bind_eq_some_iff.1 h
    obtain ⟨n, hdigits, heq⟩ := Option.map_eq_some_iff.1 hp
    obtain ⟨rfl, rfl⟩ := Prod.mk.inj heq
    rw [eq_of_search hsearch, List.append_assoc]
    exact position_of_writes (wordOfDigits_eq_some_iff.1 hdigits)
  · intro h
    obtain ⟨hcs, hdigits⟩ := eq_of_position h
    have hmem : '\x7d' ∉ cs.takeWhile writesPosition :=
      (wordOfDigits_eq_some_iff.1 hdigits).not_mem (by decide) (by decide)
    rw [hcs, named, search_of_not_mem hmem, Option.bind_some]
    show (wordOfDigits _).map (·, after) = _
    rw [hdigits, Option.map_some]

theorem opening_eq_none (h : ¬ opener <+: cs) : opening cs = none := by
  cases ho : opening cs with
  | none => rfl
  | some rest => exact absurd ⟨rest, (eq_of_opening ho).symm⟩ h

theorem fill_of_search_eq_none (h : search opener cs = none) : fill command cs = cs := by
  induction cs with
  | nil => exact fill_nil command
  | cons c rest ih =>
    rw [search] at h
    split at h
    · exact absurd h nofun
    · next hmark =>
      rw [fill_cons (opening_eq_none hmark), ih (Option.map_eq_none_iff.1 h)]

theorem fill_of_search (h : search opener cs = some (before, after)) :
    fill command cs = before ++ fill command (opener ++ after) := by
  induction cs generalizing before with
  | nil => exact absurd h nofun
  | cons c rest ih =>
    rw [search] at h
    split at h
    · next hmark =>
      obtain ⟨rfl, rfl⟩ := Prod.mk.inj (Option.some.inj h)
      obtain ⟨others, hothers⟩ := hmark
      rw [← hothers, List.drop_left]
      rfl
    · next hmark =>
      obtain ⟨⟨before', after'⟩, hrest, heq⟩ := Option.map_eq_some_iff.1 h
      obtain ⟨rfl, rfl⟩ := Prod.mk.inj heq
      rw [fill_cons (opening_eq_none hmark), ih hrest, List.cons_append]

theorem fillBySearch_eq (command : Command) (template : List Char) :
    fillBySearch command template = fill command template := by
  fun_induction fillBySearch command template with
  | case1 template hs => exact (fill_of_search_eq_none hs).symm
  | case2 template before after hs p rest hp ih =>
    rw [fill_of_search hs, ih]
    rw [named_eq_position] at hp
    rw [fill_of_position (opening_opener after) hp]
  | case3 template before after hs hp ih =>
    rw [fill_of_search hs, ih]
    rw [named_eq_position] at hp
    rw [fill_of_opening (opening_opener after) hp]

/-! ## Places anywhere -/

theorem begins_held (h : WritesWord digits p) (after : List Char) :
    Begins ((Piece.held digits).spelled ++ after) p after := by
  refine ⟨digits, h.not_mem (by decide) (by decide), h, ?_⟩
  rw [Piece.spelled, List.append_assoc]
  rfl

theorem exists_held_of_begins (h : Begins template p after) :
    ∃ digits, WritesWord digits p ∧ template = (Piece.held digits).spelled ++ after := by
  obtain ⟨digits, -, hwrites, heq⟩ := h
  refine ⟨digits, hwrites, ?_⟩
  rw [heq, Piece.spelled, List.append_assoc (opener ++ digits)]
  rfl

/-- A brace opens a place at its beginning only. -/
theorem brace_not_mem_tail (h : WritesWord digits p) :
    '\x7b' ∉ (Piece.held digits).spelled.tail := by
  show '\x7b' ∉ "word:".toList ++ digits ++ ['\x7d']
  rw [List.mem_append, List.mem_append, not_or, not_or]
  exact ⟨⟨by decide, h.not_mem (by decide) (by decide)⟩, by decide⟩

/-- Places do not overlap: one that begins before a brace ends before it. -/
theorem begins_of_append (h : Begins (c :: rest ++ '\x7b' :: cs) p after) :
    ∃ between, Begins (c :: rest) p between := by
  obtain ⟨digits, hwrites, heq⟩ := exists_held_of_begins h
  rcases List.append_eq_append_iff.1 heq with ⟨left, hheld, hcs⟩ | ⟨between, hbefore, -⟩
  · cases left with
    | nil =>
      rw [List.append_nil] at hheld
      refine ⟨[], ?_⟩
      rw [← hheld, ← List.append_nil (Piece.held digits).spelled]
      exact begins_held hwrites []
    | cons d others =>
      -- the brace would stand inside the place
      rw [List.cons_append, List.cons.injEq] at hcs
      have hinside : '\x7b' ∈ (Piece.held digits).spelled.tail := by
        rw [hheld, List.cons_append, List.tail_cons, ← hcs.1]
        exact List.mem_append_right _ List.mem_cons_self
      exact absurd hinside (brace_not_mem_tail hwrites)
  · rw [hbefore]
    exact ⟨between, begins_held hwrites between⟩

theorem Begins.append (h : Begins template p after) (cs : List Char) :
    Begins (template ++ cs) p (after ++ cs) := by
  obtain ⟨digits, hmem, hwrites, rfl⟩ := h
  exact ⟨digits, hmem, hwrites, by simp only [List.append_assoc, List.cons_append]⟩

/-- What the scan makes of a text does not depend on a place behind it. -/
theorem Scan.append_held (hscan : Scan command before out) (h : WritesWord digits p)
    (after : List Char) :
    fill command (before ++ ((Piece.held digits).spelled ++ after)) =
      out ++ (((command.token? p).getD "").toList ++ fill command after) := by
  induction hscan with
  | done => rw [List.nil_append, fill_of_begins (begins_held h after), List.nil_append]
  | token hbefore hrest ih => rw [fill_of_begins (hbefore.append _), ih, List.append_assoc]
  | @copy c rest out hfree hrest ih =>
    have hjoined : ∀ q between,
        ¬ Begins (c :: (rest ++ ((Piece.held digits).spelled ++ after))) q between := by
      intro q between hb
      obtain ⟨between', hb⟩ := begins_of_append hb
      exact hfree q between' hb
    rw [List.cons_append, fill_of_not_begins hjoined, ih, List.cons_append]

/-- Whatever surrounds a place, it is filled, and what surrounds it is filled as if
it stood alone. -/
theorem fill_append_held (command : Command) (h : WritesWord digits p)
    (before after : List Char) :
    fill command (before ++ ((Piece.held digits).spelled ++ after)) =
      fill command before ++ (((command.token? p).getD "").toList ++ fill command after) :=
  (scan_fill command before).append_held h after

theorem fill_of_no_place
    (h : ∀ before digits after p, WritesWord digits p →
      template ≠ before ++ ((Piece.held digits).spelled ++ after)) :
    fill command template = template := by
  induction template with
  | nil => exact fill_nil command
  | cons c rest ih =>
    have hfree : ∀ p after, ¬ Begins (c :: rest) p after := by
      intro p after hb
      obtain ⟨digits, hwrites, heq⟩ := exists_held_of_begins hb
      exact h [] digits after p hwrites heq
    have hrest : ∀ before digits after p, WritesWord digits p →
        rest ≠ before ++ ((Piece.held digits).spelled ++ after) := by
      intro before digits after p hwrites heq
      exact h (c :: before) digits after p hwrites (congrArg (c :: ·) heq)
    rw [fill_of_not_begins hfree, ih hrest]

end Template

namespace Command

open Text Template

/-- The message that a template makes of a command is what one scan of it makes,
and nothing else is, so the scan ends and has one outcome.  Jumping from opener to
opener makes the same.  Every place in the template is filled with the token at its
position, however it is surrounded, and the tokens themselves are not looked
through again.  A template without any is its own message. -/
theorem fill_scans (command : Command) (template : String) :
    (∀ out, Scan command template.toList out ↔ out = (command.fill template).toList) ∧
    fillBySearch command template.toList = (command.fill template).toList ∧
    (∀ before digits after p, WritesWord digits p →
      template.toList = before ++ ((Piece.held digits).spelled ++ after) →
      (command.fill template).toList = Template.fill command before ++
        (((command.token? p).getD "").toList ++ Template.fill command after)) ∧
    ((∀ before digits after p, WritesWord digits p →
      template.toList ≠ before ++ ((Piece.held digits).spelled ++ after)) →
      command.fill template = template) := by
  have hfill : (command.fill template).toList = Template.fill command template.toList := by
    rw [fill, String.toList_ofList]
  rw [hfill]
  refine ⟨fun out => ⟨Scan.eq_fill, ?_⟩, fillBySearch_eq command template.toList, ?_, ?_⟩
  · rintro rfl
    exact scan_fill command template.toList
  · intro before digits after p hwrites heq
    rw [heq]
    exact fill_append_held command hwrites before after
  · intro hfree
    rw [fill, fill_of_no_place hfree, String.ofList_toList]

/-- A place inside what only looks like one is filled, and the token it is filled
with, which looks like a place itself, stays as it is. -/
theorem fill_scans_sample :
    let c : Command := ⟨[], ["take", "\x7bword:1\x7d"]⟩
    WritesWord ['2'] 2 ∧
    (c.fill "\x7bword:\x7bword:2\x7d\x7d").toList = "\x7bword:\x7bword:1\x7d\x7d".toList ∧
    c.fill "Taken." = "Taken." := by
  intro c
  obtain ⟨-, -, hplace, -⟩ := fill_scans c "\x7bword:\x7bword:2\x7d\x7d"
  obtain ⟨-, -, -, hplain⟩ := fill_scans c "Taken."
  have htwo : WritesWord ['2'] 2 := .inl
    ⟨List.cons_ne_nil _ _, List.forall_mem_singleton.2 rfl, rfl, by decide⟩
  have hopener : Template.fill c opener = opener := by
    have hopening : opening opener = some [] := rfl
    rw [fill_of_opening hopening rfl, fill_nil, List.append_nil]
  have hclosing : Template.fill c ['\x7d'] = ['\x7d'] := by
    rw [fill_cons (opening_of_ne (by decide)), fill_nil]
  refine ⟨htwo, ?_, hplain fun before digits after p hwrites heq => ?_⟩
  · rw [hplace opener ['2'] ['\x7d'] 2 htwo rfl, hopener, hclosing]
    decide
  · have hbrace : '\x7b' ∈ "Taken.".toList := by
      rw [heq]
      exact List.mem_append_right _ List.mem_cons_self
    exact absurd hbrace (by decide)

end Command
end TextAdventure
