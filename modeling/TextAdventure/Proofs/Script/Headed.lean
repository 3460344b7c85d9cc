/-
The tokens of a declaration.

A script is its declarations, one after the other.  One of a room or of an item
is headed by the keyword for it and the name, and no keyword of a declaration
comes after that until the next one begins.
-/
import TextAdventure.Proofs.Script.Grounded
import TextAdventure.Proofs.Syntax.Spans

namespace TextAdventure
namespace Script

open Text

/-- What is named by a declaration, and how. -/
def Declaration.named? : Declaration → Option (String × Spanned String)
  | .room decl => some ("room", decl.name)
  | .item decl => some ("item", decl.name)
  | _ => none

/-- Whether a span is that of the words `in inventory` in the declaration of an
item of some name. -/
def InInventory (ts : List (Spanned Token)) (name : String) (span : Span) : Prop :=
  ∃ before keyword title between place inventory after,
    ts = before ++ keyword :: title :: between ++ place :: inventory :: after ∧
    keyword.node = .word "item" ∧ title.node.Says name ∧
    (∀ t ∈ between, Grammar.withinDeclaration t.node = true) ∧
    place.node = .word "in" ∧ inventory.node = .word "inventory" ∧
    span = ⟨place.span.start, inventory.span.stop⟩

/-- What of a declaration is said by the tokens that it is read from. -/
structure Declaration.SaidBy (ts : List (Spanned Token)) (d : Declaration) : Prop where
  premises : ∀ q ∈ d.premises, q.StandsIn ts
  headed : ∀ kind name, d.named? = some (kind, name) →
    ∃ keyword title rest, ts = keyword :: title :: rest ∧ keyword.node = .word kind ∧
      Named title name
  inInventory : ∀ decl, d = .item decl → ∀ clause ∈ decl.clauses,
    clause.node = .inPlace .inventory → InInventory ts decl.name.node clause.span

namespace Grammar

open Reader

/-! ## Items -/

/-- Whether no token begins a declaration. -/
def Within (ts : List (Spanned Token)) : Prop := ∀ t ∈ ts, withinDeclaration t.node = true

theorem within_word {t : Spanned Token} {w : String} (ht : t.node = .word w)
    (hw : (declarations w).isSome = false) : withinDeclaration t.node = true := by
  rw [ht, withinDeclaration, Keywords.starts, hw]
  rfl

theorem within_of_free {t : Spanned Token}
    (hfree : ∀ w, isReserved w = true → t.node ≠ .word w) : withinDeclaration t.node = true := by
  rw [withinDeclaration, Bool.not_eq_true']
  by_contra hstarts
  obtain ⟨w, hw, heq⟩ := List.mem_map.1 (starts_declarations (Bool.not_eq_false _ ▸ hstarts))
  have hreserved : ∀ w ∈ ["room", "item", "word", "action", "occurs", "start"],
      isReserved w = true := by decide
  exact hfree w (hreserved w hw) heq.symm

theorem yields_keyword (w : String) :
    Yields (keyword w) fun read _ => ∃ t, read = [t] ∧ t.node = .word w := .expect _

theorem yields_string : Yields string fun read _ => Within read := by
  refine (Yields.take _).imp fun read s => ?_
  rintro ⟨t, rfl, ht⟩
  refine List.forall_mem_singleton.2 ?_
  cases hnode : t.node with
  | string text => rfl
  | _ =>
    rw [hnode] at ht
    exact absurd ht nofun

theorem yields_description : Yields description fun read _ => Within read := by
  refine .peek fun t => ?_
  split
  · exact yields_string.map fun _ _ h => h
  · exact .pure (List.forall_mem_nil _)

theorem yields_place : Yields place fun read a => Within read ∧
    (a = .inventory → ∃ t, read = [t] ∧ t.node = .word "inventory") := by
  refine .peek fun t => ?_
  split
  · refine (yields_keyword "nowhere").map fun read _ => ?_
    rintro ⟨t, rfl, ht⟩
    exact ⟨List.forall_mem_singleton.2 (within_word ht rfl), nofun⟩
  · refine (yields_keyword "inventory").map fun read _ => ?_
    rintro ⟨t, rfl, ht⟩
    exact ⟨List.forall_mem_singleton.2 (within_word ht rfl), fun _ => ⟨t, rfl, ht⟩⟩
  · refine yields_name.map fun read name => ?_
    rintro ⟨t, rfl, -, hfree⟩
    exact ⟨List.forall_mem_singleton.2 (within_of_free hfree), nofun⟩

theorem yields_itemClause : Yields (spanned (choose itemClauses)) fun read clause =>
    Within read ∧ (clause.node = .inPlace .inventory → ∃ place inventory,
      read = [place, inventory] ∧ place.node = .word "in" ∧ inventory.node = .word "inventory" ∧
      clause.span = ⟨place.span.start, inventory.span.stop⟩) := by
  have hchosen : Yields (choose itemClauses) fun read clause => Within read ∧
      (clause = .inPlace .inventory → ∃ place inventory, read = [place, inventory] ∧
        place.node = .word "in" ∧ inventory.node = .word "inventory") := by
    refine .choose fun w q hq k hk => ?_
    unfold itemClauses at hq
    split at hq <;> cases hq
    · refine yields_string.map fun read _ hread => ⟨?_, nofun⟩
      exact List.forall_mem_cons.2 ⟨within_word hk rfl, hread⟩
    · exact .pure ⟨List.forall_mem_singleton.2 (within_word hk rfl), nofun⟩
    · refine yields_place.map fun read a ha => ?_
      refine ⟨List.forall_mem_cons.2 ⟨within_word hk rfl, ha.1⟩, fun heq => ?_⟩
      obtain ⟨t, rfl, ht⟩ := ha.2 (ItemClause.inPlace.inj heq)
      exact ⟨k, t, rfl, hk, ht⟩
  refine hchosen.spanned.imp fun read clause => ?_
  rintro ⟨⟨hwithin, hinventory⟩, hspans⟩
  refine ⟨hwithin, fun hclause => ?_⟩
  obtain ⟨place, inventory, rfl, hplace, hword⟩ := hinventory hclause
  obtain ⟨hstart, hstop⟩ := hspans (List.cons_ne_nil _ _)
  refine ⟨place, inventory, rfl, hplace, hword, ?_⟩
  obtain ⟨node, start, stop⟩ := clause
  cases hstart
  cases hstop
  rfl

/-- An item is headed by its name, and after that it is said in which clauses it
starts with the player. -/
theorem yields_itemDecl : Yields itemDecl fun read decl => ∃ title rest,
    read = title :: rest ∧ Named title decl.name ∧
    ∀ clause ∈ decl.clauses, clause.node = .inPlace .inventory →
      ∃ between place inventory after, rest = between ++ place :: inventory :: after ∧
        Within between ∧ place.node = .word "in" ∧ inventory.node = .word "inventory" ∧
        clause.span = ⟨place.span.start, inventory.span.stop⟩ := by
  refine yields_name.bind fun read name => ?_
  rintro ⟨title, rfl, hnamed, -⟩
  refine yields_description.bind fun described description hdescribed =>
    (yields_itemClause.many _).bind fun read clauses => ?_
  rintro ⟨parts, rfl, hparts⟩
  refine .pure ⟨title, described ++ parts.flatten, by simp, hnamed, fun clause hclause hin => ?_⟩
  obtain ⟨before, after, rfl⟩ := List.append_of_mem hclause
  obtain ⟨first, part, later, rfl, hfirst, hpart, -⟩ := exists_split_of_forall₂ hparts
  obtain ⟨place, inventory, rfl, hplace, hinventory, hspan⟩ := hpart.2 hin
  refine ⟨described ++ first.flatten, place, inventory, later.flatten, by simp, ?_, hplace,
    hinventory, hspan⟩
  refine List.forall_mem_append.2 ⟨hdescribed, fun t ht => ?_⟩
  obtain ⟨part, hpart, ht⟩ := List.mem_flatten.1 ht
  obtain ⟨_, -, hwithin, -⟩ := exists_right_of_forall₂ hfirst hpart
  exact hwithin t ht

theorem yields_roomDecl :
    Yields roomDecl fun read decl => ∃ title rest, read = title :: rest ∧ Named title decl.name := by
  refine yields_name.bind fun read name => ?_
  rintro ⟨title, rfl, hnamed, -⟩
  refine (Yields.of_alike fun _ _ => alike_description).bind fun described description _ => ?_
  refine (Yields.of_alike fun _ _ => alike_exitClause.many eats_exitClause _).bind
    fun read exits _ => ?_
  exact .pure ⟨title, described ++ (read ++ []), rfl, hnamed⟩

/-! ## Declarations -/

theorem saidBy_of_unnamed {keyword : Spanned Token} {ts : List (Spanned Token)} {d : Declaration}
    (hname : d.named? = none) (h : ∀ q ∈ d.premises, q.StandsIn ts) : d.SaidBy (keyword :: ts) := by
  refine ⟨fun q hq => (h q hq).mono (List.subset_cons_self keyword ts), fun kind name hnamed => ?_,
    fun decl hdecl => ?_⟩
  · exact absurd (hname.symm.trans hnamed) nofun
  · rw [hdecl] at hname
    exact absurd hname nofun

theorem saidBy_declarations (w : String) (q : Reader Declaration) (h : declarations w = some q)
    (keyword : Spanned Token) (hkeyword : keyword.node = .word w) :
    Yields q fun more d => d.SaidBy (keyword :: more) := by
  unfold declarations at h
  split at h <;> cases h
  · refine (grounded_roomDecl.standsIn.and yields_roomDecl).map fun more decl => ?_
    rintro ⟨hpremises, title, rest, rfl, hnamed⟩
    refine ⟨fun q hq => (hpremises q hq).mono (List.subset_cons_self _ _), ?_, nofun⟩
    rintro kind name ⟨⟩
    exact ⟨keyword, title, rest, rfl, hkeyword, hnamed⟩
  · refine (grounded_itemDecl.standsIn.and yields_itemDecl).map fun more decl => ?_
    rintro ⟨hpremises, title, rest, rfl, hnamed, hclauses⟩
    refine ⟨fun q hq => (hpremises q hq).mono (List.subset_cons_self _ _), ?_, ?_⟩
    · rintro kind name ⟨⟩
      exact ⟨keyword, title, rest, rfl, hkeyword, hnamed⟩
    · rintro _ ⟨⟩ clause hclause hin
      obtain ⟨between, place, inventory, after, rfl, hbetween, hplace, hinventory, hspan⟩ :=
        hclauses clause hclause hin
      exact ⟨[], keyword, title, between, place, inventory, after, rfl, hkeyword, hnamed.1,
        hbetween, hplace, hinventory, hspan⟩
  · exact (Yields.of_alike fun _ _ => alike_wordDecl).map fun more decl _ =>
      saidBy_of_unnamed rfl (List.forall_mem_nil _)
  · exact grounded_actionDecl.standsIn.map fun more decl hdecl => saidBy_of_unnamed rfl hdecl
  · exact grounded_ruleBody.standsIn.map fun more body hbody => saidBy_of_unnamed rfl hbody
  · exact grounded_room.standsIn.map fun more name hname => saidBy_of_unnamed rfl hname

theorem yields_finish : Yields finish fun read _ => read = [] := by
  rintro ⟨stop, ahead⟩ a r hrun
  cases ahead with
  | nil =>
    obtain ⟨-, rfl⟩ := Reply.done.inj hrun
    exact ⟨[], Cursor.reads_nil _, rfl⟩
  | cons t rest => exact absurd hrun nofun

theorem saidBy_script : Yields script fun read tree => ∃ parts : List (List (Spanned Token)),
    read = parts.flatten ∧ List.Forall₂ (fun part d => d.node.SaidBy part) parts
      tree.declarations := by
  have hdeclaration : Yields (choose declarations) fun part d => d.SaidBy part :=
    .choose saidBy_declarations
  refine (hdeclaration.spanned.many _).bind fun read declarations => ?_
  rintro ⟨parts, rfl, hparts⟩
  refine yields_finish.bind fun more _ => ?_
  rintro rfl
  exact .pure ⟨parts, by simp, hparts.imp fun _ _ h => h.1⟩

end Grammar

/-- A script is read from the tokens of its declarations, one after the other. -/
theorem Tree.exists_saidBy {tokens : List (Spanned Token)} {tree : Tree}
    (h : Tree.ofTokens tokens = .ok tree) : ∃ parts after, tokens = parts.flatten ++ after ∧
      List.Forall₂ (fun part d => d.SaidBy part) parts tree.nodes := by
  rw [ofTokens] at h
  cases hrun : Grammar.script ⟨0, tokens⟩ with
  | stuck k =>
    rw [hrun] at h
    cases h
  | done read r =>
    rw [hrun] at h
    obtain rfl := Except.ok.inj h
    obtain ⟨_, hreads, parts, rfl, hparts⟩ := Grammar.saidBy_script _ _ _ hrun
    exact ⟨parts, r.ahead, hreads.ahead, List.forall₂_map_right_iff.2 hparts⟩

/-! ## Names in their order -/

theorem Declaration.SaidBy.nameSpans_sublist {ts : List (Spanned Token)} {d : Declaration}
    (h : d.SaidBy ts) : d.nameSpans.Sublist (ts.map (·.span)) := by
  cases d with
  | room decl | item decl =>
    obtain ⟨keyword, title, rest, rfl, -, -, hspan⟩ := h.headed _ _ rfl
    rw [nameSpans, ← hspan, List.singleton_sublist]
    exact List.mem_cons_of_mem _ List.mem_cons_self
  | _ => exact List.nil_sublist _

/-- Each declaration begins behind the one before it, so that the places of the
names are places of tokens in the order of the tokens. -/
theorem Tree.nameSpans_sublist {tokens : List (Spanned Token)} {tree : Tree}
    (h : Tree.ofTokens tokens = .ok tree) : tree.nameSpans.Sublist (tokens.map (·.span)) := by
  have hdeclarations : ∀ {parts : List (List (Spanned Token))} {decls : List Declaration},
      List.Forall₂ (fun part d => d.SaidBy part) parts decls →
      (decls.flatMap Declaration.nameSpans).Sublist (parts.flatten.map (·.span)) := by
    intro parts decls hparts
    induction hparts with
    | nil => exact List.nil_sublist _
    | cons hpart _ ih =>
      rw [List.flatMap_cons, List.flatten_cons, List.map_append]
      exact hpart.nameSpans_sublist.append ih
  obtain ⟨parts, after, rfl, hparts⟩ := exists_saidBy h
  have hnames := hdeclarations hparts
  rw [nodes, List.flatMap_map] at hnames
  rw [List.map_append]
  exact hnames.trans (List.sublist_append_left _ _)

end Script
end TextAdventure
