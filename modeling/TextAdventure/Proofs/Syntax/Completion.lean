/-
Whatever is read of a script can be completed.

Every reader of the grammar, where it is stuck, has read the beginning of a phrase
of its kind.
-/
import TextAdventure.Proofs.Syntax.Beginnings
import TextAdventure.Proofs.Syntax.Sentences

namespace TextAdventure
namespace Script

/-! ## There are phrases of every kind -/

deriving instance Inhabited for Comparison

namespace Phrase

instance : Inhabited Name := ⟨.quoted ""⟩

instance : Inhabited PatternWord := ⟨⟨"go", by decide⟩⟩

deriving instance Inhabited for Place, Pattern, Atom, Unary, Cond, Further, When, Step, Clause,
  Body, Target, Exit, Room, ItemClause, Item, Word, Action, Declaration

end Phrase

namespace Grammar

open Reader

/-! ## Names and patterns -/

theorem begins_identifier : Begins identifier fun w => [.word w] :=
  .single (fun _ => decides_identifier) fun _ _ => Begins.stuck_take

theorem begins_string : Begins string fun s => [.string s] :=
  .single (fun _ => decides_string) fun _ _ => Begins.stuck_take

theorem begins_integer : Begins integer fun i => [.integer i] :=
  .single (fun _ => decides_integer) fun _ _ => Begins.stuck_take

theorem begins_comparison : Begins comparison fun x => [.compare x] :=
  .single (fun _ => decides_comparison) fun _ _ => Begins.stuck_take

theorem begins_name : Begins name fun x : Phrase.Name => [x.token] :=
  .single (fun _ => decides_name) fun _ _ => Begins.stuck_spanned_take

theorem begins_patternWord : Begins patternWord fun w : Phrase.PatternWord => [w.token] :=
  .single (fun _ => decides_patternWord) fun _ _ => Begins.stuck_take

theorem begins_description : Begins description (Phrase.optional fun s => [.string s]) := by
  refine .peek fun t => ?_
  split
  · exact (begins_string.map _).rename some fun _ => rfl
  · exact .pure none rfl

theorem begins_place : Begins place fun x : Phrase.Place => [x.token] := by
  refine .peek fun t => ?_
  split
  · exact .sole .nowhere rfl
  · exact .sole .inventory rfl
  · exact (begins_name.map _).rename .room fun _ => rfl

theorem begins_pattern : Begins pattern Phrase.Pattern.tokens := by
  refine Begins.spanned (.peek fun t => ?_)
  split
  · exact .sole .any rfl
  · exact .sole .none rfl
  · have hlist := Begins.skip (t := .leftBracket) (begins_patternWord.bind fun first =>
      (begins_patternWord.others (t := .comma)).close (t := .rightBracket) (f := fun others =>
        Pattern.list (first :: others)))
    exact hlist.rename (fun x => .list x.1 x.2) fun _ => rfl
  · exact (begins_patternWord.map _).rename .word fun _ => rfl

/-! ## Conditions -/

theorem begins_way {α : Type} {f : Spanned Int64 → α} {g : String → α} :
    Begins (do
        if ← wordPositionAhead then
          keyword "word"
          f <$> spanned integer
        else g <$> identifier)
      way := by
  refine .look ?_ fun b => ?_
  · intro c
    obtain ⟨b, hrun, -⟩ := wordPositionAhead_eq c
    exact ⟨b, hrun⟩
  · split
    · exact (Begins.skip (begins_integer.spanned.map f)).rename .inl fun _ => rfl
    · exact (begins_identifier.map g).rename .inr fun _ => rfl

theorem begins_atom : Begins (choose atoms) Phrase.Atom.tokens := by
  refine .choose fun w q hq => ?_
  unfold atoms at hq
  -- one case for each keyword, in the order of the grammar
  split at hq
  all_goals first
    | obtain rfl := Option.some.inj hq
    | exact absurd hq.symm (Option.some_ne_none q)
  · exact (begins_integer.spanned.bind fun _ => begins_pattern.result fun _ => ⟨_, rfl⟩).after
      (fun x => .word x.1 x.2) fun _ => rfl
  · exact (begins_integer.spanned.map _).after .unrecognized fun _ => rfl
  · exact (begins_name.map _).after .here fun _ => rfl
  · exact (begins_name.map _).after .carrying fun _ => rfl
  · exact (begins_name.map _).after .present fun _ => rfl
  · exact (begins_name.map _).after .inRoom fun _ => rfl
  · exact begins_way.after (Sum.elim .exitWord .exit) fun x => by cases x <;> rfl
  · exact (begins_integer.spanned.map _).after .random fun _ => rfl
  · exact (begins_name.map _).after .moved fun _ => rfl
  · exact (begins_name.map _).after .inPlay fun _ => rfl
  · exact (begins_identifier.map _).after .flag fun _ => rfl
  · exact (begins_identifier.bind fun _ => begins_comparison.bind fun _ =>
      begins_integer.result fun _ => ⟨_, rfl⟩).after (fun x => .counter x.1 x.2.1 x.2.2)
      fun _ => rfl
  · exact (begins_identifier.bind fun _ => Begins.skip (begins_string.result fun _ =>
      ⟨_, rfl⟩)).after (fun x => .string x.1 x.2) fun _ => rfl
  · exact (begins_integer.spanned.map _).after .times fun _ => rfl
  · exact .alone .always rfl

variable {unary inner : Reader Guard}

theorem begins_disjunction (h : Begins unary Phrase.Unary.tokens) :
    Begins (disjunction unary) Phrase.Cond.tokens := by
  have hparts := (h.bind fun first => (h.others (t := .word "or")).result fun others =>
    ⟨(first, others), rfl⟩).spanned
  refine Begins.rename (hparts.result ?_)
    (fun x : Phrase.Unary × List Phrase.Unary => Phrase.Cond.mk x.1 x.2) ?_
  · rintro ⟨⟨first, others⟩, span⟩
    cases others <;> exact ⟨_, rfl⟩
  · intro x
    rw [Phrase.Cond.tokens, Phrase.Unary.tokensAll_eq_flatMap]
    rfl

theorem begins_group (h : Begins inner Phrase.Cond.tokens) :
    Begins (group inner) Phrase.Unary.tokens := by
  have hparts := (Begins.skip (t := .leftParen) (h.bind fun first =>
    (h.others (t := .word "and")).close (t := .rightParen) (f := fun others =>
      (first, others)))).spanned
  refine Begins.rename (hparts.result ?_)
    (fun x : Phrase.Cond × List Phrase.Cond => Phrase.Unary.group x.1 x.2) ?_
  · rintro ⟨⟨first, others⟩, span⟩
    cases others <;> exact ⟨_, rfl⟩
  · intro x
    rw [Phrase.Unary.tokens, Phrase.Cond.tokensAll_eq_flatMap]
    rfl

theorem begins_unaryUpTo (depth : Nat) : Begins (unaryUpTo depth) Phrase.Unary.tokens := by
  induction depth with
  | zero => exact .fail
  | succ depth ih =>
    refine .peek fun t => ?_
    split
    · exact (Begins.result (Begins.skip ih).spanned fun _ => ⟨_, rfl⟩).rename .not fun x => by
        rw [Phrase.Unary.tokens]
    · exact begins_group (begins_disjunction ih)
    · exact (Begins.result begins_atom.spanned fun _ => ⟨_, rfl⟩).rename .atom fun x => by
        rw [Phrase.Unary.tokens]

theorem begins_guard : Begins guard Phrase.Cond.tokens where
  done c := (begins_disjunction (begins_unaryUpTo c.ahead.length)).done c
  stuck c := (begins_disjunction (begins_unaryUpTo c.ahead.length)).stuck c

theorem begins_further :
    Begins (do
        if ← nextIs (.word "and") then keyword "and"
        guard)
      Phrase.Further.tokens := by
  refine .nextIs fun b => ?_
  split
  · exact (Begins.skip begins_guard).rename (fun x => ⟨true, x⟩) fun _ => rfl
  · exact begins_guard.rename (fun x => ⟨false, x⟩) fun _ => rfl

theorem begins_guards : Begins guards (Phrase.optional Phrase.When.tokens) := by
  refine .nextIs fun b => ?_
  split
  · exact (Begins.skip (begins_guard.bind fun _ => (begins_further.many _).result fun _ =>
      ⟨_, rfl⟩)).rename (fun x => some ⟨x.1, x.2⟩) fun _ => rfl
  · exact .pure none rfl

/-! ## Steps -/

theorem begins_flagSteps :
    Begins (choose flagSteps) fun x : After Phrase.Step.tokens "flag" => x.rest := by
  have : Inhabited (After Phrase.Step.tokens "flag") := ⟨⟨.setFlag "", _, rfl⟩⟩
  refine .choose fun w q hq => ?_
  unfold flagSteps at hq
  split at hq
  all_goals first
    | obtain rfl := Option.some.inj hq
    | exact absurd hq.symm (Option.some_ne_none q)
  · exact (begins_identifier.map _).after (fun w => ⟨.setFlag w, _, rfl⟩) fun _ => rfl
  · exact (begins_identifier.map _).after (fun w => ⟨.resetFlag w, _, rfl⟩) fun _ => rfl

theorem begins_counterSteps :
    Begins (choose counterSteps) fun x : After Phrase.Step.tokens "counter" => x.rest := by
  have : Inhabited (After Phrase.Step.tokens "counter") := ⟨⟨.increment "", _, rfl⟩⟩
  refine .choose fun w q hq => ?_
  unfold counterSteps at hq
  split at hq
  all_goals first
    | obtain rfl := Option.some.inj hq
    | exact absurd hq.symm (Option.some_ne_none q)
  · exact (begins_identifier.bind fun _ => begins_integer.result fun _ => ⟨_, rfl⟩).after
      (fun x => ⟨.setCounter x.1 x.2, _, rfl⟩) fun _ => rfl
  · exact (begins_identifier.map _).after (fun w => ⟨.increment w, _, rfl⟩) fun _ => rfl
  · exact (begins_identifier.map _).after (fun w => ⟨.decrement w, _, rfl⟩) fun _ => rfl
  · exact (begins_identifier.map _).after (fun w => ⟨.resetCounter w, _, rfl⟩) fun _ => rfl

theorem begins_stringSteps :
    Begins (choose stringSteps) fun x : After Phrase.Step.tokens "string" => x.rest := by
  have : Inhabited (After Phrase.Step.tokens "string") := ⟨⟨.setString "" "", _, rfl⟩⟩
  refine .choose fun w q hq => ?_
  unfold stringSteps at hq
  split at hq
  all_goals first
    | obtain rfl := Option.some.inj hq
    | exact absurd hq.symm (Option.some_ne_none q)
  exact (begins_identifier.bind fun _ => begins_string.result fun _ => ⟨_, rfl⟩).after
    (fun x => ⟨.setString x.1 x.2, _, rfl⟩) fun _ => rfl

theorem begins_putSteps (item : Spanned String) : Begins (choose (putSteps item)) whereto := by
  refine .choose fun w q hq => ?_
  unfold putSteps at hq
  split at hq
  all_goals first
    | obtain rfl := Option.some.inj hq
    | exact absurd hq.symm (Option.some_ne_none q)
  · exact .alone none rfl
  · exact (begins_place.map _).after some fun _ => rfl

theorem begins_step : Begins (choose steps) Phrase.Step.tokens := by
  refine .choose fun w q hq => ?_
  unfold steps at hq
  -- one case for each keyword, in the order of the grammar
  split at hq
  all_goals first
    | obtain rfl := Option.some.inj hq
    | exact absurd hq.symm (Option.some_ne_none q)
  · exact (begins_string.map _).after .print fun _ => rfl
  · exact (begins_string.map _).after .println fun _ => rfl
  · exact .alone .look rfl
  · exact .alone .inventory rfl
  · exact .alone .quit rfl
  · exact begins_way.after (Sum.elim .goWord .go) fun x => by cases x <;> rfl
  · exact (begins_name.map _).after .goto fun _ => rfl
  · exact (begins_name.map _).after .get fun _ => rfl
  · exact (begins_name.map _).after .drop fun _ => rfl
  · exact (begins_name.bind begins_putSteps).after (fun x => put x.1 x.2) fun x => by
      obtain ⟨item, _ | place⟩ := x <;> rfl
  · exact (begins_name.bind fun _ => begins_name.result fun _ => ⟨_, rfl⟩).after
      (fun x => .swap x.1 x.2) fun _ => rfl
  · exact (begins_name.map _).after .destroy fun _ => rfl
  · exact begins_flagSteps
  · exact begins_counterSteps
  · exact begins_stringSteps

theorem begins_clause : Begins clause Phrase.Clause.tokens :=
  (Begins.skip (begins_step.spanned.bind fun _ => (begins_step.spanned.many _).result fun _ =>
    ⟨_, rfl⟩)).rename (fun x => ⟨x.1, x.2⟩) fun _ => rfl

theorem begins_ruleBody : Begins ruleBody Phrase.Body.tokens :=
  (begins_guards.bind fun _ => begins_clause.bind fun _ => (begins_clause.many _).result fun _ =>
    ⟨_, rfl⟩).rename (fun x => ⟨x.1, x.2.1, x.2.2⟩) fun _ => rfl

/-! ## Declarations -/

theorem begins_target {direction : Spanned String} :
    Begins (do
        if ← nextIs (.word "self") then
          keyword "self"
          return ExitClause.mk direction none
        else return ExitClause.mk direction (some (← name)))
      (fun t : Phrase.Target => [t.token]) := by
  refine .nextIs fun b => ?_
  split
  · exact .sole .self rfl
  · exact (begins_name.result fun _ => ⟨_, rfl⟩).rename .room fun _ => rfl

theorem begins_exitClause : Begins exitClause Phrase.Exit.tokens := by
  have hparts : Begins exitClause (fun x => .word "exit" :: both (fun w => [.word w])
      (Phrase.optional fun t : Phrase.Target => [.arrow, t.token]) x) := by
    refine .skip (begins_identifier.spanned.bind fun _ => .nextIs fun b => ?_)
    split
    · exact (Begins.skip begins_target).rename some fun _ => rfl
    · exact .pure none rfl
  exact hparts.rename (fun x => ⟨x.1, x.2⟩) fun _ => rfl

theorem begins_roomDecl : Begins roomDecl Phrase.Room.tokens :=
  (begins_name.bind fun _ => begins_description.bind fun _ => (begins_exitClause.many _).result
    fun _ => ⟨_, rfl⟩).rename (fun x => ⟨x.1, x.2.1, x.2.2⟩) fun _ => rfl

theorem begins_itemClause : Begins (choose itemClauses) Phrase.ItemClause.tokens := by
  refine .choose fun w q hq => ?_
  unfold itemClauses at hq
  split at hq
  all_goals first
    | obtain rfl := Option.some.inj hq
    | exact absurd hq.symm (Option.some_ne_none q)
  · exact (begins_string.map _).after .otherName fun _ => rfl
  · exact .alone .portable rfl
  · exact (begins_place.map _).after .inPlace fun _ => rfl

theorem begins_itemDecl : Begins itemDecl Phrase.Item.tokens :=
  (begins_name.bind fun _ => begins_description.bind fun _ =>
    (begins_itemClause.spanned.many _).result fun _ => ⟨_, rfl⟩).rename
    (fun x => ⟨x.1, x.2.1, x.2.2⟩) fun _ => rfl

theorem begins_wordDecl : Begins wordDecl Phrase.Word.tokens := by
  refine (begins_identifier.spanned.bind fun _ => (begins_string.many _).result fun _ =>
    ⟨_, rfl⟩).rename (fun x => ⟨x.1, x.2⟩) fun x => ?_
  rw [Phrase.Word.tokens, List.map_eq_flatMap]
  rfl

theorem begins_noun : Begins noun (Phrase.optional Phrase.Pattern.tokens) := by
  refine .peek fun t => ?_
  cases t with
  | none => exact .pure none rfl
  | some t =>
    dsimp only
    split
    · exact (begins_pattern.map _).rename some fun _ => rfl
    · exact .pure none rfl

theorem begins_actionDecl : Begins actionDecl Phrase.Action.tokens := by
  rw [actionDecl_eq]
  exact (begins_pattern.bind fun _ => begins_noun.bind fun _ => begins_ruleBody.result fun _ =>
    ⟨_, rfl⟩).rename (fun x => ⟨x.1, x.2.1, x.2.2⟩) fun _ => rfl

theorem begins_declaration : Begins (choose declarations) Phrase.Declaration.tokens := by
  refine .choose fun w q hq => ?_
  unfold declarations at hq
  split at hq
  all_goals first
    | obtain rfl := Option.some.inj hq
    | exact absurd hq.symm (Option.some_ne_none q)
  · exact (begins_roomDecl.map _).after .room fun _ => rfl
  · exact (begins_itemDecl.map _).after .item fun _ => rfl
  · exact (begins_wordDecl.map _).after .word fun _ => rfl
  · exact (begins_actionDecl.map _).after .action fun _ => rfl
  · exact (begins_ruleBody.map _).after .occurs fun _ => rfl
  · exact (begins_name.map _).after .start fun _ => rfl

theorem begins_finish : Begins finish (fun _ : Unit => []) where
  done c a r hrun := by
    obtain ⟨stop, _ | ⟨t, rest⟩⟩ := c
    · obtain ⟨-, rfl⟩ := Reply.done.inj hrun
      exact ⟨(), rfl⟩
    · exact absurd hrun nofun
  stuck c k hrun := by
    obtain ⟨stop, _ | ⟨t, rest⟩⟩ := c
    · exact absurd hrun nofun
    · obtain rfl := Reply.stuck.inj hrun
      exact ⟨[], (), [], rfl, rfl⟩

theorem begins_script : Begins script Sentence.tokens :=
  ((begins_declaration.spanned.many _).bind fun _ => begins_finish.result fun _ =>
    ⟨_, rfl⟩).rename (fun x => ⟨x.1⟩) fun _ => (List.append_nil _).symm

end Grammar

end Script
end TextAdventure
