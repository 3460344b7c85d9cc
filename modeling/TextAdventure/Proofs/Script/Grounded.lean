/-
Where a script says what it takes for granted.

Each premise of a rule, of a room or of an item is about a name or a number, and
that is one token among those that the rule, the room or the item is read from.
The premise is placed where the token stands.
-/
import TextAdventure.Proofs.Script.Undefined
import TextAdventure.Proofs.Syntax.Consumed
import TextAdventure.Proofs.Syntax.Lockstep

namespace TextAdventure
namespace Script

/-- Whether a token can be a name, bare or quoted, and is this one. -/
def Token.Says (t : Token) (name : String) : Prop := t = .word name ∨ t = .string name

/-- Whether a name is a token, and placed where that is. -/
def Named (t : Spanned Token) (name : Spanned String) : Prop :=
  t.node.Says name.node ∧ t.span = name.span

def NameIn (ts : List (Spanned Token)) (name : Spanned String) : Prop := ∃ t ∈ ts, Named t name

def NumberIn (ts : List (Spanned Token)) (n : Spanned Int64) : Prop :=
  ∃ t ∈ ts, t.node = .integer n.node ∧ t.span = n.span

/-- Whether a premise is about one of some tokens. -/
def Premise.StandsIn (ts : List (Spanned Token)) : Premise → Prop
  | .room name => NameIn ts name
  | .item name => NameIn ts name
  | .position n => NumberIn ts n
  | .percent n => NumberIn ts n
  | .limit n => NumberIn ts n

theorem Premise.StandsIn.mono {ts ts' : List (Spanned Token)} (h : ts ⊆ ts') {p : Premise}
    (hp : p.StandsIn ts) : p.StandsIn ts' := by
  cases p <;> exact hp.imp fun t ht => ⟨h ht.1, ht.2⟩

namespace Reader

variable {α β : Type}

/-- Whether every premise of what is read is about one of the tokens that were
read, apart from those that were known before. -/
def Grounded (known : List Premise) (said : α → List Premise) (p : Reader α) : Prop :=
  Yields p fun read a => ∀ q ∈ said a, q ∈ known ∨ q.StandsIn read

namespace Grounded

variable {p : Reader α} {f : α → Reader β} {known : List Premise} {said : α → List Premise}
  {said' : β → List Premise}

theorem standsIn (h : Grounded [] said p) : Yields p fun read a => ∀ q ∈ said a, q.StandsIn read :=
  h.imp fun _ _ ha q hq => (ha q hq).resolve_left List.not_mem_nil

theorem pure {a : α} (h : said a ⊆ known) : Grounded known said (Reader.pure a) :=
  Yields.pure fun _ hq => .inl (h hq)

theorem bind (h : Grounded [] said p) (hnext : ∀ a, Grounded (known ++ said a) said' (f a)) :
    Grounded known said' (p >>= f) := by
  refine Yields.bind h.standsIn fun read a ha => (hnext a).imp fun more b hb q hq => ?_
  rcases hb q hq with hknown | hstands
  · rcases List.mem_append.1 hknown with hknown | hsaid
    · exact .inl hknown
    · exact .inr ((ha q hsaid).mono (List.subset_append_left read more))
  · exact .inr (hstands.mono (List.subset_append_right read more))

theorem single {about : α → Premise} (h : Yields p fun read a => (about a).StandsIn read) :
    Grounded [] (fun a => [about a]) p :=
  h.imp fun _ _ ha _ hq => .inr (List.mem_singleton.1 hq ▸ ha)

theorem silent (h : ∀ m m', Alike m m' p p) : Grounded known (fun _ => []) p :=
  (Yields.of_alike h).imp fun _ _ _ _ hq => absurd hq List.not_mem_nil

/-- What only reads on has no premises. -/
theorem past (h : ∀ m m', Alike m m' p p) (hnext : ∀ a, Grounded known said' (f a)) :
    Grounded known said' (p >>= f) := by
  refine bind (silent h) fun a => ?_
  rw [List.append_nil]
  exact hnext a

theorem map {g : α → β} (h : Grounded [] said p) (hg : ∀ a, said' (g a) = said a) :
    Grounded known said' (g <$> p) :=
  h.bind fun a => .pure (by rw [hg]; exact List.subset_append_right _ _)

theorem silentMap {g : α → β} (h : ∀ m m', Alike m m' p p) (hg : ∀ a, said' (g a) = []) :
    Grounded known said' (g <$> p) :=
  .past h fun a => .pure (by rw [hg]; exact List.nil_subset _)

theorem spanned (h : Grounded known said p) :
    Grounded known (fun s => said s.node) (Reader.spanned p) :=
  (Yields.spanned h).imp fun _ _ hs => hs.1

theorem peek {f : Option Token → Reader β} (h : ∀ t, Grounded known said' (f t)) :
    Grounded known said' (Reader.peek >>= f) := Yields.peek h

theorem nextIs {t : Token} {f : Bool → Reader β} (h : ∀ b, Grounded known said' (f b)) :
    Grounded known said' (Reader.nextIs t >>= f) := Yields.nextIs h

theorem many (h : Grounded [] said p) (starts : Token → Bool) :
    Grounded [] (fun as => as.flatMap said) (Reader.many starts p) := by
  refine (Yields.many h.standsIn starts).imp fun read as => ?_
  rintro ⟨parts, rfl, hparts⟩ q hq
  obtain ⟨a, ha, hq⟩ := List.mem_flatMap.1 hq
  obtain ⟨part, hpart, hstands⟩ := exists_left_of_forall₂ hparts ha
  exact .inr ((hstands q hq).mono fun t ht => List.mem_flatten.2 ⟨part, hpart, ht⟩)

theorem choose {keywords : Keywords α}
    (h : ∀ w q, keywords w = some q → Grounded known said q) :
    Grounded known said (Reader.choose keywords) := by
  refine Yields.choose fun w q hq t _ => (h w q hq).imp fun more a ha q hq => ?_
  exact (ha q hq).imp_right (.mono (List.subset_cons_self t more))

end Grounded
end Reader

/-- The premises of a clause of an item are those of the place that it names. -/
def ItemClause.premises : ItemClause → List Premise
  | .inPlace place => place.premises
  | _ => []

theorem ItemDecl.premises_places (decl : ItemDecl) :
    decl.places.flatMap Place.premises = decl.clauses.flatMap (·.node.premises) := by
  rw [places]
  induction decl.clauses with
  | nil => rfl
  | cons clause rest ih =>
    rw [List.filterMap_cons, List.flatMap_cons, ← ih]
    cases clause.node <;> rfl

theorem Guard.premises_moveTo (span : Span) (g : Guard) :
    (g.moveTo span).premises = g.premises := by
  cases g <;> rfl

namespace Grammar

open Reader

/-! ## Names and numbers -/

theorem yields_name : Yields name fun read n =>
    ∃ t, read = [t] ∧ Named t n ∧ ∀ w, isReserved w = true → t.node ≠ .word w := by
  refine (Yields.token _).imp fun read n => ?_
  rintro ⟨t, rfl, hvalue, hspan⟩
  refine ⟨t, rfl, ?_⟩
  cases hnode : t.node with
  | word w =>
    rw [hnode] at hvalue
    dsimp only at hvalue
    split at hvalue
    · exact absurd hvalue nofun
    · next hfree =>
      refine ⟨⟨.inl (by rw [hnode, Option.some.inj hvalue]), hspan.symm⟩, fun w' hw' heq => ?_⟩
      rw [Token.word.inj heq] at hfree
      exact hfree hw'
  | string s =>
    rw [hnode] at hvalue
    exact ⟨⟨.inr (by rw [hnode, Option.some.inj hvalue]), hspan.symm⟩, fun _ _ => nofun⟩
  | _ =>
    rw [hnode] at hvalue
    exact absurd hvalue nofun

theorem yields_nameIn : Yields name NameIn :=
  yields_name.imp fun _ _ ⟨t, hread, hnamed, _⟩ => ⟨t, hread ▸ List.mem_singleton_self t, hnamed⟩

theorem yields_numberIn : Yields (spanned integer) NumberIn := by
  refine (Yields.token _).imp fun read n => ?_
  rintro ⟨t, rfl, hvalue, hspan⟩
  refine ⟨t, List.mem_singleton_self t, ?_, hspan.symm⟩
  cases hnode : t.node with
  | integer i =>
    rw [hnode] at hvalue
    rw [Option.some.inj hvalue]
  | _ =>
    rw [hnode] at hvalue
    exact absurd hvalue nofun

theorem grounded_room : Grounded [] (fun n => [.room n]) name := .single yields_nameIn

theorem grounded_item : Grounded [] (fun n => [.item n]) name := .single yields_nameIn

theorem grounded_position : Grounded [] (fun n => [.position n]) (spanned integer) := .single yields_numberIn

theorem grounded_percent : Grounded [] (fun n => [.percent n]) (spanned integer) := .single yields_numberIn

theorem grounded_limit : Grounded [] (fun n => [.limit n]) (spanned integer) := .single yields_numberIn

theorem grounded_place : Grounded [] Place.premises place := by
  refine .peek fun t => ?_
  split
  · exact .silentMap (fun _ _ => alike_keyword _) fun _ => rfl
  · exact .silentMap (fun _ _ => alike_keyword _) fun _ => rfl
  · exact grounded_room.map fun _ => rfl

theorem grounded_way {α : Type} {said : α → List Premise} {f : Spanned Int64 → α} {g : String → α}
    (hf : ∀ n, said (f n) = [.position n]) (hg : ∀ w, said (g w) = []) :
    Grounded [] said (do
      if ← wordPositionAhead then
        keyword "word"
        f <$> spanned integer
      else g <$> identifier) := by
  have hposition : Grounded [] said (keyword "word" >>= fun _ => f <$> spanned integer) :=
    .past (fun _ _ => alike_keyword _) fun _ => grounded_position.map hf
  have hdirection : Grounded [] said (g <$> identifier) := .silentMap (fun _ _ => .take _) hg
  intro c a r hrun
  obtain ⟨b, hahead, -⟩ := wordPositionAhead_eq c
  rw [bind_of_done hahead] at hrun
  cases b with
  | true => exact hposition c a r hrun
  | false => exact hdirection c a r hrun

/-! ## Conditions -/

theorem grounded_atoms (w : String) (q : Reader Atom) (h : atoms w = some q) :
    Grounded [] Atom.premises q := by
  unfold atoms at h
  split at h <;> cases h
  · exact grounded_position.bind fun _ => .past (fun _ _ => alike_pattern) fun _ =>
      .pure (List.Subset.refl _)
  · exact grounded_position.map fun _ => rfl
  · exact grounded_item.map fun _ => rfl
  · exact grounded_item.map fun _ => rfl
  · exact grounded_item.map fun _ => rfl
  · exact grounded_room.map fun _ => rfl
  · exact grounded_way (fun _ => rfl) fun _ => rfl
  · exact grounded_percent.map fun _ => rfl
  · exact grounded_item.map fun _ => rfl
  · exact grounded_item.map fun _ => rfl
  · exact .silentMap (fun _ _ => .take _) fun _ => rfl
  · exact .past (fun _ _ => .take _) fun _ => .past (fun _ _ => .take _) fun _ =>
      .silentMap (fun _ _ => .take _) fun _ => rfl
  · exact .past (fun _ _ => .take _) fun _ => .past (fun _ _ => .expect _) fun _ =>
      .silentMap (fun _ _ => .take _) fun _ => rfl
  · exact grounded_limit.map fun _ => rfl
  · exact .pure (List.nil_subset _)

section

variable {unary inner : Reader Guard}

/-- The premises of a condition and of those that stand beside it. -/
def joined (parts : Guard × List Guard) : List Premise :=
  parts.1.premises ++ parts.2.flatMap Guard.premises

theorem grounded_disjunction (h : Grounded [] Guard.premises unary) :
    Grounded [] Guard.premises (disjunction unary) := by
  have hor : Grounded [] Guard.premises (keyword "or" >>= fun _ => unary) :=
    .past (fun _ _ => alike_keyword _) fun _ => h
  have hparts : Grounded [] joined (do
      let first ← unary
      let others ← many (· == .word "or") do
        keyword "or"
        unary
      return (first, others)) :=
    h.bind fun first => (hor.many _).bind fun others => .pure (List.Subset.refl _)
  refine hparts.spanned.bind ?_
  rintro ⟨⟨first, others⟩, span⟩
  dsimp only
  split
  · exact .pure (List.subset_append_left _ _)
  · refine .pure ?_
    rw [Guard.premises, Guard.premisesOf_eq_flatMap, List.flatMap_cons]
    exact List.Subset.refl _

theorem grounded_group (h : Grounded [] Guard.premises inner) :
    Grounded [] Guard.premises (group inner) := by
  have hand : Grounded [] Guard.premises (keyword "and" >>= fun _ => inner) :=
    .past (fun _ _ => alike_keyword _) fun _ => h
  have hparts : Grounded [] joined (do
      expect .leftParen
      let first ← inner
      let others ← many (· == .word "and") do
        keyword "and"
        inner
      expect .rightParen
      return (first, others)) :=
    .past (fun _ _ => .expect _) fun _ => h.bind fun first => (hand.many _).bind fun others =>
      .past (fun _ _ => .expect _) fun _ => .pure (List.Subset.refl _)
  refine hparts.spanned.bind ?_
  rintro ⟨⟨first, others⟩, span⟩
  dsimp only
  split
  · refine .pure ?_
    rw [Guard.premises_moveTo]
    exact List.subset_append_left _ _
  · refine .pure ?_
    rw [Guard.premises, Guard.premisesOf_eq_flatMap, List.flatMap_cons]
    exact List.Subset.refl _

end

theorem grounded_unaryUpTo (depth : Nat) : Grounded [] Guard.premises (unaryUpTo depth) := by
  induction depth with
  | zero =>
    intro c g r hrun
    exact absurd hrun nofun
  | succ depth ih =>
    refine .peek fun t => ?_
    split
    · have hnot : Grounded [] Guard.premises (keyword "not" >>= fun _ => unaryUpTo depth) :=
        .past (fun _ _ => alike_keyword _) fun _ => ih
      exact hnot.spanned.bind fun inner => .pure (List.Subset.refl _)
    · exact grounded_group (grounded_disjunction ih)
    · exact (Grounded.choose grounded_atoms).spanned.bind fun a => .pure (List.Subset.refl _)

theorem grounded_guard : Grounded [] Guard.premises guard :=
  fun c => grounded_disjunction (grounded_unaryUpTo c.ahead.length) c

theorem grounded_guards : Grounded [] Guard.premisesOf guards := by
  have hfurther : Grounded [] Guard.premises (do
      if ← nextIs (.word "and") then keyword "and"
      guard) := by
    refine .nextIs fun b => ?_
    split
    · exact .past (fun _ _ => alike_keyword _) fun _ => grounded_guard
    · exact grounded_guard
  refine .nextIs fun b => ?_
  split
  · refine .past (fun _ _ => alike_keyword _) fun _ => grounded_guard.bind fun first =>
      (hfurther.many _).bind fun others => .pure ?_
    rw [Guard.premisesOf_eq_flatMap, List.flatMap_cons]
    exact List.Subset.refl _
  · exact .pure (List.nil_subset _)

/-! ## Steps -/

theorem grounded_flagSteps (w : String) (q : Reader Step) (h : flagSteps w = some q) :
    Grounded [] Step.premises q := by
  unfold flagSteps at h
  split at h <;> cases h
  · exact .silentMap (fun _ _ => .take _) fun _ => rfl
  · exact .silentMap (fun _ _ => .take _) fun _ => rfl

theorem grounded_counterSteps (w : String) (q : Reader Step) (h : counterSteps w = some q) :
    Grounded [] Step.premises q := by
  unfold counterSteps at h
  split at h <;> cases h
  · exact .past (fun _ _ => .take _) fun _ => .silentMap (fun _ _ => .take _) fun _ => rfl
  · exact .silentMap (fun _ _ => .take _) fun _ => rfl
  · exact .silentMap (fun _ _ => .take _) fun _ => rfl
  · exact .silentMap (fun _ _ => .take _) fun _ => rfl

theorem grounded_stringSteps (w : String) (q : Reader Step) (h : stringSteps w = some q) :
    Grounded [] Step.premises q := by
  unfold stringSteps at h
  split at h <;> cases h
  exact .past (fun _ _ => .take _) fun _ => .silentMap (fun _ _ => .take _) fun _ => rfl

theorem grounded_putSteps (item : Spanned String) (w : String) (q : Reader Step)
    (h : putSteps item w = some q) : Grounded [.item item] Step.premises q := by
  unfold putSteps at h
  split at h <;> cases h
  · exact .pure (List.Subset.refl _)
  · exact grounded_place.bind fun place => .pure (List.Subset.refl _)

theorem grounded_steps (w : String) (q : Reader Step) (h : steps w = some q) :
    Grounded [] Step.premises q := by
  unfold steps at h
  split at h <;> cases h
  · exact .silentMap (fun _ _ => .take _) fun _ => rfl
  · exact .silentMap (fun _ _ => .take _) fun _ => rfl
  · exact .pure (List.nil_subset _)
  · exact .pure (List.nil_subset _)
  · exact .pure (List.nil_subset _)
  · exact grounded_way (fun _ => rfl) fun _ => rfl
  · exact grounded_room.map fun _ => rfl
  · exact grounded_item.map fun _ => rfl
  · exact grounded_item.map fun _ => rfl
  · exact grounded_item.bind fun item => .choose (grounded_putSteps item)
  · exact grounded_item.bind fun a => grounded_item.bind fun b => .pure (List.Subset.refl _)
  · exact grounded_item.map fun _ => rfl
  · exact .choose grounded_flagSteps
  · exact .choose grounded_counterSteps
  · exact .choose grounded_stringSteps

theorem grounded_step :
    Grounded [] (fun step => step.node.premises) (spanned (choose steps)) :=
  (Grounded.choose grounded_steps).spanned

theorem grounded_clause :
    Grounded [] (fun steps => steps.flatMap (·.node.premises)) clause := by
  refine .past (fun _ _ => alike_keyword _) fun _ => grounded_step.bind fun first =>
    (grounded_step.many _).bind fun others => .pure ?_
  rw [List.flatMap_cons]
  exact List.Subset.refl _

theorem grounded_ruleBody : Grounded [] RuleBody.premises ruleBody := by
  refine grounded_guards.bind fun guards => grounded_clause.bind fun first =>
    (grounded_clause.many _).bind fun others => .pure ?_
  rw [RuleBody.premises, List.flatMap_cons, ← List.append_assoc]
  exact List.Subset.refl _

/-! ## Declarations -/

theorem grounded_exitClause : Grounded [] ExitClause.premises exitClause := by
  refine .past (fun _ _ => alike_keyword _) fun _ =>
    .past (fun _ _ => (Alike.take _).spanned) fun direction => .nextIs fun arrow => ?_
  split
  · refine .past (fun _ _ => .expect _) fun _ => .nextIs fun self => ?_
    split
    · exact .past (fun _ _ => alike_keyword _) fun _ => .pure (List.nil_subset _)
    · exact grounded_room.bind fun room => .pure (List.Subset.refl _)
  · exact .pure (List.nil_subset _)

theorem grounded_roomDecl : Grounded [] RoomDecl.premises roomDecl := by
  refine .past (fun _ _ => alike_name) fun name => .past (fun _ _ => alike_description) fun _ => ?_
  exact (grounded_exitClause.many _).bind fun exits => .pure (List.Subset.refl _)

theorem grounded_itemClauses (w : String) (q : Reader ItemClause) (h : itemClauses w = some q) :
    Grounded [] ItemClause.premises q := by
  unfold itemClauses at h
  split at h <;> cases h
  · exact .silentMap (fun _ _ => .take _) fun _ => rfl
  · exact .pure (List.nil_subset _)
  · exact grounded_place.map fun _ => rfl

theorem grounded_itemDecl :
    Grounded [] (fun decl => decl.places.flatMap Place.premises) itemDecl := by
  have hclause : Grounded [] (fun clause => clause.node.premises)
      (spanned (choose itemClauses)) := (Grounded.choose grounded_itemClauses).spanned
  refine .past (fun _ _ => alike_name) fun name => .past (fun _ _ => alike_description) fun _ => ?_
  refine (hclause.many _).bind fun clauses => .pure ?_
  rw [ItemDecl.premises_places]
  exact List.Subset.refl _

theorem grounded_actionDecl : Grounded [] (fun decl => decl.body.premises) actionDecl := by
  rw [actionDecl_eq]
  exact .past (fun _ _ => alike_pattern) fun verb => .past (fun _ _ => alike_noun) fun noun =>
    grounded_ruleBody.bind fun body => .pure (List.Subset.refl _)

end Grammar
end Script
end TextAdventure
