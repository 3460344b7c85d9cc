/-
Every reader of the grammar is alike wherever it reads.

Where a value that was read goes into another reader, the two readers are given
different ones: the item that is put somewhere says where it was named.  The
readers of conditions differ in how deep they may go, which depends on the tokens
that are left.
-/
import TextAdventure.Proofs.Syntax.Completion

namespace TextAdventure
namespace Script
namespace Grammar

open Reader

variable {m m' : Nat}

/-! ## Names and numbers -/

theorem alike_name : Alike m m' name name := (Alike.take _).spanned

theorem alike_keyword (w : String) : Alike m m' (keyword w) (keyword w) := .expect _

theorem alike_integer : Alike m m' (spanned integer) (spanned integer) := (Alike.take _).spanned

theorem alike_description : Alike m m' description description := by
  refine .peek fun t => ?_
  split
  · exact (Alike.take _).map _ _
  · exact .pure _ _

theorem alike_place : Alike m m' place place := by
  refine .peek fun t => ?_
  split
  · exact (alike_keyword _).bind fun _ _ => .pure _ _
  · exact (alike_keyword _).bind fun _ _ => .pure _ _
  · exact alike_name.map _ _

theorem wordPositionAhead_of_sameTo {c c' : Cursor} {b : Bool} (h : c.SameTo c' 1)
    (hrun : wordPositionAhead c = .done b c) : wordPositionAhead c' = .done b c' := by
  have himp : ∀ {c c' : Cursor}, c.SameTo c' 1 →
      (∃ i ts, c.values = .word "word" :: .integer i :: ts) →
      ∃ i ts, c'.values = .word "word" :: .integer i :: ts := by
    rintro c c' hsame ⟨i, ts, hvalues⟩
    refine ⟨i, c'.values.drop 2, ?_⟩
    rw [← List.take_append_drop 2 c'.values, ← hsame, hvalues]
    rfl
  obtain ⟨b₁, hrun₁, hb₁⟩ := wordPositionAhead_eq c
  obtain ⟨b₂, hrun₂, hb₂⟩ := wordPositionAhead_eq c'
  obtain ⟨rfl, -⟩ := Reply.done.inj (hrun₁.symm.trans hrun)
  obtain rfl : b₁ = b₂ :=
    Bool.eq_iff_iff.2 (hb₁.trans ((Iff.intro (himp h) (himp (Eq.symm h))).trans hb₂.symm))
  exact hrun₂

/-- The word `word` is a direction or not by what follows it, which is also the
next token when a direction has been read. -/
theorem alike_way {α : Type} (f : Spanned Int64 → α) (g : String → α) :
    Alike m m' (do
        if ← wordPositionAhead then
          keyword "word"
          f <$> spanned integer
        else g <$> identifier)
      (do
        if ← wordPositionAhead then
          keyword "word"
          f <$> spanned integer
        else g <$> identifier) := by
  rintro ⟨stop, ahead⟩ ⟨stop', ahead'⟩ - -
  cases ahead with
  | nil =>
    refine .stuck rfl fun hsame => ?_
    obtain rfl : ahead' = [] := hsame.ahead_eq_nil rfl
    rfl
  | cons t rest =>
    obtain ⟨node, span⟩ := t
    cases node with
    | word w =>
      obtain ⟨b, hrun, hb⟩ := wordPositionAhead_eq ⟨stop, ⟨.word w, span⟩ :: rest⟩
      cases b with
      | false =>
        refine ⟨1, Nat.le_add_left 1 _, .inl ⟨g w, bind_of_done hrun, fun hsame => ?_⟩⟩
        obtain ⟨⟨_, _⟩, rest', rfl, rfl⟩ := hsame.exists_cons rfl
        exact ⟨g w, bind_of_done (wordPositionAhead_of_sameTo hsame hrun)⟩
      | true =>
        obtain ⟨i, ts, hvalues⟩ := hb.1 rfl
        obtain ⟨hword, hrest⟩ := List.cons.inj hvalues
        obtain rfl := Token.word.inj hword
        obtain ⟨⟨_, place⟩, rest, rfl, rfl, -⟩ := List.map_eq_cons_iff.1 hrest
        refine ⟨2, Nat.le_add_left 2 _, .inl ⟨_, bind_of_done hrun, fun hsame => ?_⟩⟩
        have hahead := wordPositionAhead_of_sameTo (hsame.mono (Nat.le_succ 1)) hrun
        obtain ⟨⟨_, _⟩, rest', rfl, rfl⟩ := hsame.exists_cons rfl
        have hbehind := Cursor.SameTo.skip (j := 1) (k := 1) hsame
        obtain ⟨⟨_, _⟩, rest', rfl, rfl⟩ := hbehind.exists_cons rfl
        exact ⟨_, bind_of_done hahead⟩
    | _ =>
      refine .stuck rfl fun hsame => ?_
      obtain ⟨⟨_, _⟩, rest', rfl, rfl⟩ := hsame.exists_cons rfl
      rfl

/-! ## Patterns -/

theorem alike_pattern : Alike m m' pattern pattern := by
  refine Alike.spanned (.peek fun t => ?_)
  split
  · exact (alike_keyword _).bind fun _ _ => .pure _ _
  · exact (alike_keyword _).bind fun _ _ => .pure _ _
  · have hword : Eats (do
        expect .comma
        patternWord) :=
      begins_patternWord.skip.eats fun _ => List.cons_ne_nil _ _
    refine (Alike.expect _).bind fun _ _ => (Alike.take _).bind fun _ _ => ?_
    refine (Alike.many ((Alike.expect _).bind fun _ _ => .take _) hword _).bind fun _ _ => ?_
    exact (Alike.expect _).bind fun _ _ => .pure _ _
  · exact (Alike.take _).map _ _

/-! ## Conditions -/

theorem alike_atoms (w : String) : Option.Rel (Alike m m') (atoms w) (atoms w) := by
  unfold atoms
  split
  · exact .some (alike_integer.bind fun _ _ => alike_pattern.bind fun _ _ => .pure _ _)
  · exact .some (alike_integer.map _ _)
  · exact .some (alike_name.map _ _)
  · exact .some (alike_name.map _ _)
  · exact .some (alike_name.map _ _)
  · exact .some (alike_name.map _ _)
  · exact .some (alike_way _ _)
  · exact .some (alike_integer.map _ _)
  · exact .some (alike_name.map _ _)
  · exact .some (alike_name.map _ _)
  · exact .some ((Alike.take _).map _ _)
  · refine .some ((Alike.take _).bind fun _ _ => (Alike.take _).bind fun _ _ => ?_)
    exact (Alike.take _).bind fun _ _ => .pure _ _
  · refine .some ((Alike.take _).bind fun _ _ => (Alike.expect _).bind fun _ _ => ?_)
    exact (Alike.take _).bind fun _ _ => .pure _ _
  · exact .some (alike_integer.map _ _)
  · exact .some (.pure _ _)
  · exact .none

section

variable {unary unary' inner inner' : Reader Guard}

theorem alike_disjunction (h : Alike m m' unary unary')
    (hbegins : Begins unary Phrase.Unary.tokens) :
    Alike m m' (disjunction unary) (disjunction unary') := by
  have hor : Alike m m' (keyword "or" >>= fun _ => unary) (keyword "or" >>= fun _ => unary') :=
    (alike_keyword _).bind fun _ _ => h
  have heats : Eats (keyword "or" >>= fun _ => unary) :=
    hbegins.skip.eats fun _ => List.cons_ne_nil _ _
  refine Alike.bind (h.bind fun _ _ => (hor.many heats _).bind fun _ _ => .pure _ _).spanned ?_
  rintro ⟨⟨first, others⟩, span⟩ ⟨⟨first', others'⟩, span'⟩
  dsimp only
  split <;> split <;> exact .pure _ _

theorem alike_group (h : Alike m m' inner inner') (hbegins : Begins inner Phrase.Cond.tokens) :
    Alike (m + 1) (m' + 1) (group inner) (group inner') := by
  have hand : Alike m m' (keyword "and" >>= fun _ => inner) (keyword "and" >>= fun _ => inner') :=
    (alike_keyword _).bind fun _ _ => h
  have heats : Eats (keyword "and" >>= fun _ => inner) :=
    hbegins.skip.eats fun _ => List.cons_ne_nil _ _
  refine Alike.bind (Alike.spanned (.skip _ (h.bind fun _ _ =>
    (hand.many heats _).bind fun _ _ => (Alike.expect _).bind fun _ _ => .pure _ _))) ?_
  rintro ⟨⟨first, others⟩, span⟩ ⟨⟨first', others'⟩, span'⟩
  dsimp only
  split <;> split <;> exact .pure _ _

end

theorem unaryUpTo_of_ahead_eq_nil {c : Cursor} (h : c.ahead = []) (depth : Nat) :
    unaryUpTo depth c = .stuck c := by
  obtain ⟨stop, _⟩ := c
  obtain rfl := h
  cases depth <;> rfl

/-- How deep a condition may go does not matter, as long as no tokens are left when
the depth is used up. -/
theorem alike_unaryUpTo (depth depth' : Nat) :
    Alike depth depth' (unaryUpTo depth) (unaryUpTo depth') := by
  induction depth generalizing depth' with
  | zero =>
    intro c c' hc _
    have hnil : c.ahead = [] := List.length_eq_zero_iff.1 (Nat.le_zero.1 hc)
    exact .stuck rfl fun hsame => unaryUpTo_of_ahead_eq_nil (hsame.ahead_eq_nil hnil) depth'
  | succ depth ih =>
    have hsucc : ∀ depth', Alike (depth + 1) (depth' + 1) (unaryUpTo (depth + 1))
        (unaryUpTo (depth' + 1)) := by
      intro depth'
      refine .peek fun t => ?_
      split
      · exact Alike.bind (Alike.spanned (.skip _ (ih depth'))) fun _ _ => .pure _ _
      · exact alike_group (alike_disjunction (ih depth') (begins_unaryUpTo depth))
          (begins_disjunction (begins_unaryUpTo depth))
      · exact (Alike.choose alike_atoms).spanned.bind fun _ _ => .pure _ _
    cases depth' with
    | zero =>
      intro c c' hc hc'
      have hnil : c'.ahead = [] := List.length_eq_zero_iff.1 (Nat.le_zero.1 hc')
      refine (hsucc 0 c c' hc (Nat.le_succ_of_le hc')).congr rfl ?_
      rw [unaryUpTo_of_ahead_eq_nil hnil, unaryUpTo_of_ahead_eq_nil hnil]
    | succ depth' => exact hsucc depth'

theorem alike_guard : Alike m m' guard guard := by
  intro c c' _ _
  have halike := alike_disjunction (alike_unaryUpTo c.ahead.length c'.ahead.length)
    (begins_unaryUpTo c.ahead.length)
  exact (halike c c' (Nat.le_refl _) (Nat.le_refl _)).congr rfl rfl

theorem alike_guards : Alike m m' guards guards := by
  refine .nextIs fun b => ?_
  split
  · refine (alike_keyword _).bind fun _ _ => alike_guard.bind fun _ _ => ?_
    refine Alike.bind (Alike.many (.nextIs fun b => ?_) ?_ _) fun _ _ => .pure _ _
    · split
      · exact (alike_keyword _).bind fun _ _ => alike_guard
      · exact alike_guard
    · refine begins_further.eats fun x => ?_
      obtain ⟨t, ts, hx, -⟩ := further_starts x
      rw [hx]
      exact List.cons_ne_nil t ts
  · exact .pure _ _

/-! ## Steps -/

theorem alike_flagSteps (w : String) : Option.Rel (Alike m m') (flagSteps w) (flagSteps w) := by
  unfold flagSteps
  split
  · exact .some ((Alike.take _).map _ _)
  · exact .some ((Alike.take _).map _ _)
  · exact .none

theorem alike_counterSteps (w : String) :
    Option.Rel (Alike m m') (counterSteps w) (counterSteps w) := by
  unfold counterSteps
  split
  · exact .some ((Alike.take _).bind fun _ _ => (Alike.take _).bind fun _ _ => .pure _ _)
  · exact .some ((Alike.take _).map _ _)
  · exact .some ((Alike.take _).map _ _)
  · exact .some ((Alike.take _).map _ _)
  · exact .none

theorem alike_stringSteps (w : String) :
    Option.Rel (Alike m m') (stringSteps w) (stringSteps w) := by
  unfold stringSteps
  split
  · exact .some ((Alike.take _).bind fun _ _ => (Alike.take _).bind fun _ _ => .pure _ _)
  · exact .none

theorem alike_putSteps (item item' : Spanned String) (w : String) :
    Option.Rel (Alike m m') (putSteps item w) (putSteps item' w) := by
  unfold putSteps
  split
  · exact .some (.pure _ _)
  · exact .some (alike_place.map _ _)
  · exact .none

theorem alike_steps (w : String) : Option.Rel (Alike m m') (steps w) (steps w) := by
  unfold steps
  split
  · exact .some ((Alike.take _).map _ _)
  · exact .some ((Alike.take _).map _ _)
  · exact .some (.pure _ _)
  · exact .some (.pure _ _)
  · exact .some (.pure _ _)
  · exact .some (alike_way _ _)
  · exact .some (alike_name.map _ _)
  · exact .some (alike_name.map _ _)
  · exact .some (alike_name.map _ _)
  · exact .some (alike_name.bind fun item item' => .choose (alike_putSteps item item'))
  · exact .some (alike_name.bind fun _ _ => alike_name.bind fun _ _ => .pure _ _)
  · exact .some (alike_name.map _ _)
  · exact .some (.choose alike_flagSteps)
  · exact .some (.choose alike_counterSteps)
  · exact .some (.choose alike_stringSteps)
  · exact .none

theorem eats_step : Eats (spanned (choose steps)) :=
  begins_step.spanned.eats fun x => by cases x <;> exact List.cons_ne_nil _ _

theorem alike_clause : Alike m m' clause clause := by
  have hstep : Alike m m' (spanned (choose steps)) (spanned (choose steps)) :=
    (Alike.choose alike_steps).spanned
  exact (alike_keyword _).bind fun _ _ => hstep.bind fun _ _ =>
    (hstep.many eats_step _).bind fun _ _ => .pure _ _

theorem eats_clause : Eats clause := begins_clause.eats fun _ => List.cons_ne_nil _ _

theorem alike_ruleBody : Alike m m' ruleBody ruleBody :=
  alike_guards.bind fun _ _ => alike_clause.bind fun _ _ =>
    (alike_clause.many eats_clause _).bind fun _ _ => .pure _ _

/-! ## Declarations -/

theorem alike_exitClause : Alike m m' exitClause exitClause := by
  refine (alike_keyword _).bind fun _ _ => (Alike.take _).spanned.bind fun _ _ => ?_
  refine .nextIs fun arrow => ?_
  split
  · refine (Alike.expect _).bind fun _ _ => .nextIs fun self => ?_
    split
    · exact (alike_keyword _).bind fun _ _ => .pure _ _
    · exact alike_name.bind fun _ _ => .pure _ _
  · exact .pure _ _

theorem eats_exitClause : Eats exitClause := begins_exitClause.eats fun _ => List.cons_ne_nil _ _

theorem alike_roomDecl : Alike m m' roomDecl roomDecl :=
  alike_name.bind fun _ _ => alike_description.bind fun _ _ =>
    (alike_exitClause.many eats_exitClause _).bind fun _ _ => .pure _ _

theorem alike_itemClauses (w : String) :
    Option.Rel (Alike m m') (itemClauses w) (itemClauses w) := by
  unfold itemClauses
  split
  · exact .some ((Alike.take _).map _ _)
  · exact .some (.pure _ _)
  · exact .some (alike_place.map _ _)
  · exact .none

theorem alike_itemClause :
    Alike m m' (spanned (choose itemClauses)) (spanned (choose itemClauses)) :=
  (Alike.choose alike_itemClauses).spanned

theorem eats_itemClause : Eats (spanned (choose itemClauses)) :=
  begins_itemClause.spanned.eats fun x => by cases x <;> exact List.cons_ne_nil _ _

theorem alike_itemDecl : Alike m m' itemDecl itemDecl :=
  alike_name.bind fun _ _ => alike_description.bind fun _ _ =>
    (alike_itemClause.many eats_itemClause _).bind fun _ _ => .pure _ _

theorem alike_wordDecl : Alike m m' wordDecl wordDecl :=
  (Alike.take _).spanned.bind fun _ _ =>
    ((Alike.take _).many (Eats.take _) _).bind fun _ _ => .pure _ _

theorem alike_noun : Alike m m' noun noun := by
  refine .peek fun t => ?_
  cases t with
  | none => exact .pure _ _
  | some t =>
    dsimp only
    split
    · exact alike_pattern.map _ _
    · exact .pure _ _

theorem alike_actionDecl : Alike m m' actionDecl actionDecl := by
  rw [actionDecl_eq]
  exact alike_pattern.bind fun _ _ => alike_noun.bind fun _ _ =>
    alike_ruleBody.bind fun _ _ => .pure _ _

theorem alike_declarations (w : String) :
    Option.Rel (Alike m m') (declarations w) (declarations w) := by
  unfold declarations
  split
  · exact .some (alike_roomDecl.map _ _)
  · exact .some (alike_itemDecl.map _ _)
  · exact .some (alike_wordDecl.map _ _)
  · exact .some (alike_actionDecl.map _ _)
  · exact .some (alike_ruleBody.map _ _)
  · exact .some (alike_name.map _ _)
  · exact .none

theorem alike_finish : Alike m m' finish finish := by
  rintro ⟨stop, ahead⟩ ⟨stop', ahead'⟩ - -
  cases ahead with
  | nil =>
    refine ⟨0, Nat.zero_le _, .inl ⟨(), rfl, fun hsame => ⟨(), ?_⟩⟩⟩
    obtain rfl : ahead' = [] := hsame.ahead_eq_nil rfl
    rfl
  | cons t rest =>
    refine .stuck rfl fun hsame => ?_
    obtain ⟨t', rest', rfl, -⟩ := hsame.exists_cons rfl
    rfl

theorem eats_declaration : Eats (spanned (choose declarations)) :=
  begins_declaration.spanned.eats fun x => by cases x <;> exact List.cons_ne_nil _ _

theorem alike_script : Alike m m' script script :=
  ((Alike.choose alike_declarations).spanned.many eats_declaration _).bind fun _ _ =>
    alike_finish.bind fun _ _ => .pure _ _

end Grammar
end Script
end TextAdventure
