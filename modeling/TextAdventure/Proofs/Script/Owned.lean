/-
Whose a name is.

A name belongs to the declaration that stands where the name was first declared.
That asks for places, but for the order of declarations only: if no two names
stand in one place, the name of a declaration is its own exactly if none before
it has the same name.  So of scripts that say the same, the same is wrong.
-/
import TextAdventure.Proofs.Script.Kinds
import TextAdventure.Proofs.Script.Placeless
import TextAdventure.Proofs.Syntax.Spans

namespace TextAdventure
namespace Script

open Text

/-! ## The first of a name -/

/-- The first declaration that has a name, in any case. -/
theorem exists_first {f : Declaration → Option String} {ds : List Declaration} {key : String}
    (h : key ∈ (ds.filterMap f).map lower) :
    ∃ before d after name, ds = before ++ d :: after ∧ f d = some name ∧ lower name = key ∧
      key ∉ (before.filterMap f).map lower := by
  induction ds with
  | nil => exact absurd h List.not_mem_nil
  | cons d rest ih =>
    by_cases hd : ∃ name, f d = some name ∧ lower name = key
    · obtain ⟨name, hname, hkey⟩ := hd
      exact ⟨[], d, rest, name, rfl, hname, hkey, List.not_mem_nil⟩
    · have hhere : key ∉ (([d] : List Declaration).filterMap f).map lower := by
        cases hname : f d with
        | none => simp [hname]
        | some name =>
          have hne : lower name ≠ key := fun hkey => hd ⟨name, hname, hkey⟩
          simp [hname, hne.symm]
      have hsplit : ((d :: rest).filterMap f).map lower =
          (([d] : List Declaration).filterMap f).map lower ++ (rest.filterMap f).map lower := by
        rw [← List.singleton_append, List.filterMap_append, List.map_append]
      rw [hsplit, List.mem_append] at h
      obtain ⟨before, first, after, name, rfl, hname, hkey, hnew⟩ := ih (h.resolve_left hhere)
      refine ⟨d :: before, first, after, name, rfl, hname, hkey, fun hmem => ?_⟩
      rw [← List.singleton_append, List.filterMap_append, List.map_append, List.mem_append] at hmem
      exact hmem.elim hhere hnew

/-! ## Owning a name -/

namespace Tree

variable {tree tree' : Tree} {before after : List Declaration}

/-- Whether no two of the names that are declared stand in one place. -/
def Apart (tree : Tree) : Prop := tree.nameSpans.Nodup

theorem nameSpans_eq (tree : Tree) : tree.nameSpans = tree.nodes.flatMap Declaration.nameSpans := by
  rw [nameSpans, nodes, List.flatMap_map]

/-- Declarations one after the other do not name things in one place. -/
theorem Apart.span_ne {a b : Declaration} {middle : List Declaration} {x y : Span}
    (h : tree.Apart) (hsplit : tree.nodes = before ++ a :: (middle ++ b :: after))
    (ha : a.nameSpans = [x]) (hb : b.nameSpans = [y]) : x ≠ y := by
  rw [Apart, nameSpans_eq, hsplit, List.flatMap_append, List.flatMap_cons, List.flatMap_append,
    List.flatMap_cons, ha, hb, List.singleton_append, List.singleton_append] at h
  have hrest := (List.nodup_append.1 h).2.1
  have hnot := (List.nodup_cons.1 hrest).1
  rintro rfl
  exact hnot (List.mem_append_right _ List.mem_cons_self)

theorem ownsRoom_eq {decl : RoomDecl} (hapart : tree.Apart)
    (hsplit : tree.nodes = before ++ .room decl :: after) :
    (Names.ofTree tree).ownsRoom decl.name =
      decide (lower decl.name.node ∉ (before.filterMap Declaration.roomName?).map lower) := by
  by_cases hnew : lower decl.name.node ∉ (before.filterMap Declaration.roomName?).map lower
  · rw [decide_eq_true hnew]
    exact Names.ownsRoom_of_new hsplit hnew
  · rw [decide_eq_false hnew]
    obtain ⟨early, d, late, name, rfl, hname, hkey, hfirst⟩ := exists_first (not_not.1 hnew)
    cases d with
    | room first =>
      obtain rfl : first.name.node = name := Option.some.inj hname
      rw [List.append_assoc, List.cons_append] at hsplit
      have hfound := Names.room?_of_new hsplit (hkey ▸ hfirst)
      have hne : first.name.span ≠ decl.name.span := hapart.span_ne hsplit rfl rfl
      rw [Names.room?, hkey] at hfound
      rw [Names.ownsRoom, Names.room?, hfound]
      exact beq_eq_false_iff_ne.2 hne
    | _ => exact absurd hname.symm (Option.some_ne_none name)

theorem ownsItem_eq {decl : ItemDecl} (hapart : tree.Apart)
    (hsplit : tree.nodes = before ++ .item decl :: after) :
    (Names.ofTree tree).ownsItem decl.name =
      decide (lower decl.name.node ∉ (before.filterMap Declaration.itemName?).map lower) := by
  by_cases hnew : lower decl.name.node ∉ (before.filterMap Declaration.itemName?).map lower
  · rw [decide_eq_true hnew]
    exact Names.ownsItem_of_new hsplit hnew
  · rw [decide_eq_false hnew]
    obtain ⟨early, d, late, name, rfl, hname, hkey, hfirst⟩ := exists_first (not_not.1 hnew)
    cases d with
    | item first =>
      obtain rfl : first.name.node = name := Option.some.inj hname
      rw [List.append_assoc, List.cons_append] at hsplit
      have hfound := Names.item?_of_new hsplit (hkey ▸ hfirst)
      have hne : first.name.span ≠ decl.name.span := hapart.span_ne hsplit rfl rfl
      rw [Names.item?, hkey] at hfound
      rw [Names.ownsItem, Names.item?, hfound]
      exact beq_eq_false_iff_ne.2 hne
    | _ => exact absurd hname.symm (Option.some_ne_none name)

end Tree

/-! ## Declarations that say the same -/

namespace Declaration

theorem roomName?_bare (d : Declaration) : d.bare.roomName? = d.roomName? := by
  cases d <;> rfl

theorem itemName?_bare (d : Declaration) : d.bare.itemName? = d.itemName? := by
  cases d <;> rfl

theorem isWorldly_bare (d : Declaration) : d.bare.isWorldly = d.isWorldly := by
  cases d <;> rfl

theorem isLexical_bare (d : Declaration) : d.bare.isLexical = d.isLexical := by
  cases d <;> rfl

theorem isRule_bare (d : Declaration) : d.bare.isRule = d.isRule := by
  cases d <;> rfl

theorem nameSpans_of_not_worldly {d : Declaration} (h : d.isWorldly = false) :
    d.nameSpans = [] := by
  cases d with
  | room decl => exact absurd h nofun
  | item decl => exact absurd h nofun
  | _ => rfl

theorem bare_eq_room {d : Declaration} {r : RoomDecl} (h : d.bare = .room r) :
    ∃ decl, d = .room decl ∧ decl.bare = r := by
  cases d with
  | room decl => exact ⟨decl, rfl, Declaration.room.inj h⟩
  | _ => exact absurd h nofun

theorem bare_eq_item {d : Declaration} {i : ItemDecl} (h : d.bare = .item i) :
    ∃ decl, d = .item decl ∧ decl.bare = i := by
  cases d with
  | item decl => exact ⟨decl, rfl, Declaration.item.inj h⟩
  | _ => exact absurd h nofun

end Declaration

section

variable {β : Type} {ds ds' : List Declaration}

/-- What is picked from declarations without regard to places. -/
theorem filterMap_eq_of_bare {f : Declaration → Option β} (hf : ∀ d, f d.bare = f d)
    (h : ds.map Declaration.bare = ds'.map Declaration.bare) :
    ds.filterMap f = ds'.filterMap f := by
  have hbare : ∀ ds : List Declaration, (ds.map Declaration.bare).filterMap f = ds.filterMap f := by
    intro ds
    rw [List.filterMap_map]
    exact List.filterMap_congr fun d _ => hf d
  rw [← hbare, h, hbare]

theorem flatMap_eq_of_bare {f : Declaration → List β} (hf : ∀ d, f d.bare = f d)
    (h : ds.map Declaration.bare = ds'.map Declaration.bare) : ds.flatMap f = ds'.flatMap f := by
  have hbare : ∀ ds : List Declaration, (ds.map Declaration.bare).flatMap f = ds.flatMap f := by
    intro ds
    rw [List.flatMap_map]
    exact congrArg (List.flatMap · ds) (funext hf)
  rw [← hbare, h, hbare]

end

/-! ## Scripts that say the same -/

theorem Checked.gathered_bare {α : Type} (cs : List (Checked (Option α))) :
    (gathered cs).bare = gathered (cs.map bare) := by
  rw [gathered, bare_map, bare_all, gathered]

/-- What is checked only if the name is its own. -/
theorem Checked.bare_owned {α β : Type} {owns owns' : Bool} {c c' : Checked (Option α)}
    (howns : owns = owns') (hc : c.bare = c'.bare) (f : Option α → β) :
    ((if owns then c else .valid none).map f).bare =
      ((if owns' then c' else .valid none).map f).bare := by
  rw [bare_map, bare_map, bare_ite, bare_ite, howns, hc]

/-- Whether two scripts come to the same adventure, or to the same messages. -/
inductive SameVerdict : Except CompileError Adventure → Except CompileError Adventure → Prop
  | adventure (a : Adventure) : SameVerdict (.ok a) (.ok a)
  | invalid {ds ds' : List Diagnostic} (h : ds.map (·.message) = ds'.map (·.message)) :
    SameVerdict (.error (.invalid ds)) (.error (.invalid ds'))

namespace Tree

variable {tree tree' : Tree}

/-- What a room or an item gives, or what is wrong with it, depends on what the
script says. -/
theorem checkWorld_bare {lexicon : Vocabulary} {before before' after after' : List Declaration}
    {d d' : Declaration}
    (hapart : tree.Apart) (hapart' : tree'.Apart) (hsplit : tree.nodes = before ++ d :: after)
    (hsplit' : tree'.nodes = before' ++ d' :: after')
    (hnames : (Names.ofTree tree).bare = (Names.ofTree tree').bare)
    (hbefore : before.map Declaration.bare = before'.map Declaration.bare)
    (hd : d.bare = d'.bare) :
    (d.checkWorld (Names.ofTree tree) lexicon).bare =
      (d'.checkWorld (Names.ofTree tree') lexicon).bare := by
  cases d with
  | room decl =>
    obtain ⟨decl', rfl, hdecl⟩ := Declaration.bare_eq_room hd.symm
    have hname : decl'.name.node = decl.name.node := by
      show decl'.bare.name.node = decl.bare.name.node
      rw [hdecl]
    have howns : (Names.ofTree tree).ownsRoom decl.name =
        (Names.ofTree tree').ownsRoom decl'.name := by
      rw [ownsRoom_eq hapart hsplit, ownsRoom_eq hapart' hsplit', hname,
        filterMap_eq_of_bare Declaration.roomName?_bare hbefore]
    have hcontents : (decl.contents (Names.ofTree tree) lexicon).bare =
        (decl'.contents (Names.ofTree tree') lexicon).bare := by
      rw [RoomDecl.contents_bare, RoomDecl.contents_bare, hnames, hdecl]
    rw [Declaration.checkWorld, Declaration.checkWorld, RoomDecl.check_eq, RoomDecl.check_eq]
    exact Checked.bare_owned howns hcontents _
  | item decl =>
    obtain ⟨decl', rfl, hdecl⟩ := Declaration.bare_eq_item hd.symm
    have hname : decl'.name.node = decl.name.node := by
      show decl'.bare.name.node = decl.bare.name.node
      rw [hdecl]
    have howns : (Names.ofTree tree).ownsItem decl.name =
        (Names.ofTree tree').ownsItem decl'.name := by
      rw [ownsItem_eq hapart hsplit, ownsItem_eq hapart' hsplit', hname,
        filterMap_eq_of_bare Declaration.itemName?_bare hbefore]
    have hcontents : (decl.contents (Names.ofTree tree)).bare =
        (decl'.contents (Names.ofTree tree')).bare := by
      rw [ItemDecl.contents_bare, ItemDecl.contents_bare, hnames, hdecl]
    rw [Declaration.checkWorld, Declaration.checkWorld, ItemDecl.check_eq, ItemDecl.check_eq]
    exact Checked.bare_owned howns hcontents _
  | _ =>
    have hnot : d'.isWorldly = false := by rw [← d'.isWorldly_bare, ← hd]; rfl
    rw [Declaration.checkWorld_of_not_worldly hnot]
    rfl

theorem checkWorlds_bare (lexicon : Vocabulary) {rest rest' before before' : List Declaration}
    (hapart : tree.Apart) (hapart' : tree'.Apart) (hsplit : tree.nodes = before ++ rest)
    (hsplit' : tree'.nodes = before' ++ rest')
    (hnames : (Names.ofTree tree).bare = (Names.ofTree tree').bare)
    (hbefore : before.map Declaration.bare = before'.map Declaration.bare)
    (hrest : rest.map Declaration.bare = rest'.map Declaration.bare) :
    rest.map (fun d => (d.checkWorld (Names.ofTree tree) lexicon).bare) =
      rest'.map fun d => (d.checkWorld (Names.ofTree tree') lexicon).bare := by
  induction rest generalizing rest' before before' with
  | nil =>
    obtain rfl : rest' = [] := List.map_eq_nil_iff.1 hrest.symm
    rfl
  | cons d rest ih =>
    cases rest' with
    | nil => exact absurd hrest (List.cons_ne_nil _ _)
    | cons d' rest' =>
      obtain ⟨hd, hmore⟩ := List.cons.inj hrest
      have hfirst : (d.checkWorld (Names.ofTree tree) lexicon).bare =
          (d'.checkWorld (Names.ofTree tree') lexicon).bare :=
        checkWorld_bare hapart hapart' hsplit hsplit' hnames hbefore hd
      rw [List.append_cons] at hsplit hsplit'
      have hbefore' : (before ++ [d]).map Declaration.bare =
          (before' ++ [d']).map Declaration.bare := by
        rw [List.map_append, List.map_append, hbefore, List.map_singleton, List.map_singleton, hd]
      rw [List.map_cons, List.map_cons, hfirst, ih hsplit hsplit' hbefore' hmore]

/-- The rooms and items of a script as a script of their own. -/
def worldly (tree : Tree) : Tree := ⟨(tree.nodes.filter Declaration.isWorldly).map unplaced⟩

theorem nodes_worldly (tree : Tree) :
    tree.worldly.nodes = tree.nodes.filter Declaration.isWorldly := by
  rw [nodes, worldly, List.map_map]
  exact List.map_id _

theorem ofTree_worldly (tree : Tree) : Names.ofTree tree.worldly = Names.ofTree tree := by
  rw [names_eq, names_eq, nodes_worldly, List.filter_filter]
  simp only [Bool.and_self]

theorem Apart.worldly (h : tree.Apart) : tree.worldly.Apart := by
  rw [Apart, nameSpans_eq, nodes_worldly,
    flatMap_filter_of_nil fun _ => Declaration.nameSpans_of_not_worldly, ← nameSpans_eq]
  exact h

/-- Whether two scripts say the same of each kind, wherever they say it. -/
structure SameKinds (tree tree' : Tree) : Prop where
  lexical : (tree.nodes.filter Declaration.isLexical).map Declaration.bare =
    (tree'.nodes.filter Declaration.isLexical).map Declaration.bare
  worldly : (tree.nodes.filter Declaration.isWorldly).map Declaration.bare =
    (tree'.nodes.filter Declaration.isWorldly).map Declaration.bare
  rules : (tree.nodes.filter Declaration.isRule).map Declaration.bare =
    (tree'.nodes.filter Declaration.isRule).map Declaration.bare

namespace SameKinds

variable (h : tree.SameKinds tree')

include h

theorem names : (Names.ofTree tree).bare = (Names.ofTree tree').bare := by
  rw [names_eq, names_eq]
  exact Names.bare_foldl_declare rfl h.worldly

theorem lexicon : tree.lexicon = tree'.lexicon := by
  rw [lexicon_eq, lexicon_eq, filterMap_eq_of_bare Declaration.word?_bare h.lexical]

theorem vocabulary : tree.vocabulary = tree'.vocabulary := by
  rw [Tree.vocabulary, Tree.vocabulary, mentions_eq, mentions_eq, h.lexicon,
    flatMap_eq_of_bare Declaration.exitMentions_bare h.worldly,
    flatMap_eq_of_bare Declaration.ruleMentions_bare h.rules]

theorem assemble : tree.assemble = tree'.assemble := by
  have hfirst : (Names.ofTree tree).firstRoom = (Names.ofTree tree').firstRoom := by
    rw [← Names.firstRoom_bare, h.names, Names.firstRoom_bare]
  funext parts
  unfold Tree.assemble
  rw [hfirst, h.vocabulary]

theorem checkWorlds (hapart : tree.Apart) (hapart' : tree'.Apart) (lexicon : Vocabulary) :
    (Checked.gathered ((tree.nodes.filter Declaration.isWorldly).map
      (Declaration.checkWorld (Names.ofTree tree) lexicon))).bare =
    (Checked.gathered ((tree'.nodes.filter Declaration.isWorldly).map
      (Declaration.checkWorld (Names.ofTree tree') lexicon))).bare := by
  have hnames := h.names
  rw [← ofTree_worldly, ← ofTree_worldly tree'] at hnames
  have hworldly : tree.worldly.nodes.map Declaration.bare =
      tree'.worldly.nodes.map Declaration.bare := by
    rw [nodes_worldly, nodes_worldly, h.worldly]
  have hmap := checkWorlds_bare lexicon hapart.worldly hapart'.worldly
    (List.nil_append _).symm (List.nil_append _).symm hnames rfl hworldly
  rw [nodes_worldly, nodes_worldly, ofTree_worldly, ofTree_worldly] at hmap
  rw [Checked.gathered_bare, Checked.gathered_bare, List.map_map, List.map_map]
  exact congrArg Checked.gathered hmap

theorem checkRules (lexicon : Vocabulary) :
    (Checked.gathered ((tree.nodes.filter Declaration.isRule).map
      (Declaration.checkRule (Names.ofTree tree) lexicon))).bare =
    (Checked.gathered ((tree'.nodes.filter Declaration.isRule).map
      (Declaration.checkRule (Names.ofTree tree') lexicon))).bare := by
  have hrules : ∀ t : Tree, (Checked.gathered ((t.nodes.filter Declaration.isRule).map
      (Declaration.checkRule (Names.ofTree t) lexicon))).bare =
      Checked.gathered (((t.nodes.filter Declaration.isRule).map Declaration.bare).map
        (Declaration.checkRule (Names.ofTree t).bare lexicon)) := by
    intro t
    rw [Checked.gathered_bare, List.map_map, List.map_map]
    exact congrArg Checked.gathered (List.map_congr_left fun d _ => d.checkRule_bare)
  rw [hrules, hrules, h.rules, h.names]

theorem check (hapart : tree.Apart) (hapart' : tree'.Apart) :
    tree.check.bare = tree'.check.bare := by
  have hduplicates : (Names.ofTree tree).duplicates.map Diagnostic.bare =
      (Names.ofTree tree').duplicates.map Diagnostic.bare := congrArg Names.duplicates h.names
  have hempty : (Names.ofTree tree).rooms.isEmpty = (Names.ofTree tree').rooms.isEmpty := by
    rw [← Names.isEmpty_rooms_bare, h.names, Names.isEmpty_rooms_bare]
  rw [check_eq, check_eq, Checked.bare_given, Checked.bare_given, Checked.bare_map₂,
    Checked.bare_map₂, Checked.bare_map₂, Checked.bare_map₂, h.lexicon,
    h.checkWorlds hapart hapart', h.checkRules, hduplicates, hempty]

/-- Scripts that say the same of each kind make the same adventure, or the same
is wrong with them. -/
theorem compile (hapart : tree.Apart) (hapart' : tree'.Apart) :
    SameVerdict tree.compile tree'.compile := by
  have hcheck := h.check hapart hapart'
  cases hparts : tree.check with
  | valid parts =>
    rw [hparts] at hcheck
    have hparts' : tree'.check = .valid parts := Checked.eq_valid_of_bare hcheck.symm
    unfold Tree.compile
    rw [hparts, hparts']
    dsimp only
    rw [h.assemble]
    cases tree'.assemble parts with
    | ok a => exact .adventure a
    | error fault => exact .invalid rfl
  | wrong first others =>
    have hmessages := Checked.messages_of_bare hcheck
    cases hparts' : tree'.check with
    | valid parts =>
      rw [hparts'] at hcheck
      rw [Checked.eq_valid_of_bare hcheck] at hparts
      exact absurd hparts nofun
    | wrong first' others' =>
      rw [hparts, hparts'] at hmessages
      unfold Tree.compile
      rw [hparts, hparts']
      exact .invalid hmessages

end SameKinds
end Tree

end Script
end TextAdventure
