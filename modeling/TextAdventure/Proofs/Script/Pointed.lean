/-
Where diagnostics point.

What is reported of a script is reported where it is written.  It is about a name
or a number, which is one token, or about the place of an item, which is two of
them; and the span of the diagnostic is that of these tokens.  Only of what is
missing from the script is it not said where.
-/
import Mathlib.Data.List.Induction
import TextAdventure.Proofs.Script.Headed

namespace TextAdventure
namespace Script

open Text

/-! ## What diagnostics are about -/

/-- Whether a token is the name in the heading of a declaration. -/
def Heads (ts : List (Spanned Token)) (kind name : String) (title : Spanned Token) : Prop :=
  ∃ before keyword after, ts = before ++ keyword :: title :: after ∧
    keyword.node = .word kind ∧ title.node.Says name

/-- Whether a diagnostic says of some tokens what is wrong with them, and points
at them. -/
inductive PointsAt (ts : List (Spanned Token)) : Diagnostic → Prop
  | undefined {kind name title} (hkind : kind = "room" ∨ kind = "item") (htitle : title ∈ ts)
      (hname : title.node.Says name) :
      PointsAt ts (.plain title.span s!"undefined {kind}: \"{name}\"")
  | duplicate {kind name title earlierName earlier} (hkind : kind = "room" ∨ kind = "item")
      (first later : List (Spanned Token)) (hts : ts = first ++ later)
      (hearlier : Heads first kind earlierName earlier) (htitle : Heads later kind name title)
      (hsame : lower earlierName = lower name) :
      PointsAt ts ⟨title.span, s!"duplicate {kind}: \"{name}\"",
        some s!"first declared at offset {earlier.span.start}"⟩
  | undescribed {kind name title} (hkind : kind = "room" ∨ kind = "item")
      (htitle : Heads ts kind name title) :
      PointsAt ts (.plain title.span s!"{kind} \"{name}\" has no description")
  | placeless {name title} (htitle : Heads ts "item" name title) :
      PointsAt ts (.plain title.span
        s!"item \"{name}\" is declared before any room and has no location")
  | fixed {name span} (hspan : InInventory ts name span) :
      PointsAt ts (.plain span
        s!"item \"{name}\" is not portable and cannot start in the inventory")
  | position {t} {i : Int64} (ht : t ∈ ts) (hi : t.node = .integer i) :
      PointsAt ts (.plain t.span s!"word position must be at least 1, found {toString i.toInt}")
  | percent {t} {i : Int64} (ht : t ∈ ts) (hi : t.node = .integer i) :
      PointsAt ts (.plain t.span s!"random percentage must be 0 to 100, found {toString i.toInt}")
  | limit {t} {i : Int64} (ht : t ∈ ts) (hi : t.node = .integer i) :
      PointsAt ts (.plain t.span s!"times must not be negative, found {toString i.toInt}")

/-- Whether a span is that of a run of whole tokens. -/
def Covers (ts : List (Spanned Token)) (span : Span) : Prop :=
  ∃ run, run <:+: ts ∧ Spans run span

variable {ts : List (Spanned Token)}

theorem Heads.mem {kind name : String} {title : Spanned Token} (h : Heads ts kind name title) :
    title ∈ ts := by
  obtain ⟨before, keyword, after, rfl, -⟩ := h
  simp

/-! ## Among more tokens -/

section

variable {ts' : List (Spanned Token)} {kind name : String} {title : Spanned Token} {span : Span}
  {d : Diagnostic}

theorem Heads.amid (h : Heads ts kind name title) (hts : ts <:+: ts') :
    Heads ts' kind name title := by
  obtain ⟨before, after, rfl⟩ := hts
  obtain ⟨first, keyword, later, rfl, hkeyword, htitle⟩ := h
  exact ⟨before ++ first, keyword, later ++ after, by simp, hkeyword, htitle⟩

theorem InInventory.amid (h : InInventory ts name span) (hts : ts <:+: ts') :
    InInventory ts' name span := by
  obtain ⟨before, after, rfl⟩ := hts
  obtain ⟨first, keyword, title, between, place, inventory, later, rfl, h⟩ := h
  exact ⟨before ++ first, keyword, title, between, place, inventory, later ++ after, by simp, h⟩

theorem PointsAt.amid (h : PointsAt ts d) (hts : ts <:+: ts') : PointsAt ts' d := by
  cases h with
  | undefined hkind htitle hname => exact .undefined hkind (hts.mem htitle) hname
  | duplicate hkind first later hsplit hearlier htitle hsame =>
    obtain ⟨before, after, rfl⟩ := hts
    refine .duplicate hkind (before ++ first) (later ++ after) (by simp [hsplit])
      (hearlier.amid (List.suffix_append before first).isInfix)
      (htitle.amid (List.prefix_append later after).isInfix) hsame
  | undescribed hkind htitle => exact .undescribed hkind (htitle.amid hts)
  | placeless htitle => exact .placeless (htitle.amid hts)
  | fixed hspan => exact .fixed (hspan.amid hts)
  | position ht hi => exact .position (hts.mem ht) hi
  | percent ht hi => exact .percent (hts.mem ht) hi
  | limit ht hi => exact .limit (hts.mem ht) hi

end

/-! ## Whole tokens -/

theorem covers_of_mem {t : Spanned Token} (h : t ∈ ts) : Covers ts t.span := by
  obtain ⟨before, after, rfl⟩ := List.append_of_mem h
  exact ⟨[t], ⟨before, after, by simp⟩, rfl, rfl⟩

theorem InInventory.covers {name : String} {span : Span} (h : InInventory ts name span) :
    Covers ts span := by
  obtain ⟨first, keyword, title, between, place, inventory, later, rfl, -, -, -, -, -, rfl⟩ := h
  refine ⟨[place, inventory], ⟨first ++ keyword :: title :: between, later, by simp⟩, rfl, rfl⟩

theorem PointsAt.covers {d : Diagnostic} (h : PointsAt ts d) : Covers ts d.span := by
  cases h with
  | undefined _ htitle _ => exact covers_of_mem htitle
  | duplicate _ first later hts _ htitle _ =>
    exact covers_of_mem (hts ▸ List.mem_append_right first htitle.mem)
  | undescribed _ htitle => exact covers_of_mem htitle.mem
  | placeless htitle => exact covers_of_mem htitle.mem
  | fixed hspan => exact hspan.covers
  | position ht _ | percent ht _ | limit ht _ => exact covers_of_mem ht

/-! ## Premises -/

/-- What is said of a premise that does not hold. -/
def Premise.report : Premise → Diagnostic
  | .room name => .plain name.span s!"undefined room: \"{name.node}\""
  | .item name => .plain name.span s!"undefined item: \"{name.node}\""
  | .position n =>
    .plain n.span s!"word position must be at least 1, found {toString n.node.toInt}"
  | .percent n =>
    .plain n.span s!"random percentage must be 0 to 100, found {toString n.node.toInt}"
  | .limit n => .plain n.span s!"times must not be negative, found {toString n.node.toInt}"

theorem Premise.eq_report {names : Names} {p : Premise} {d : Diagnostic}
    (h : d ∈ p.faults names) : d = p.report := by
  cases p with
  | room name =>
    rw [faults, Names.roomRef] at h
    split at h
    · exact absurd h List.not_mem_nil
    · exact List.mem_singleton.1 h
  | item name =>
    rw [faults, Names.itemRef] at h
    split at h
    · exact absurd h List.not_mem_nil
    · exact List.mem_singleton.1 h
  | position n =>
    rw [faults, checkPosition] at h
    split at h
    · exact absurd h List.not_mem_nil
    · exact List.mem_singleton.1 h
  | percent n | limit n =>
    rw [faults] at h
    split at h
    · exact absurd h List.not_mem_nil
    · exact List.mem_singleton.1 h

theorem Premise.StandsIn.pointsAt {p : Premise} (h : p.StandsIn ts) : PointsAt ts p.report := by
  cases p with
  | room name =>
    obtain ⟨t, ht, hname, hspan⟩ := h
    rw [report, ← hspan]
    exact @PointsAt.undefined ts "room" name.node t (.inl rfl) ht hname
  | item name =>
    obtain ⟨t, ht, hname, hspan⟩ := h
    rw [report, ← hspan]
    exact @PointsAt.undefined ts "item" name.node t (.inr rfl) ht hname
  | position n =>
    obtain ⟨t, ht, hn, hspan⟩ := h
    rw [report, ← hspan]
    exact .position ht hn
  | percent n =>
    obtain ⟨t, ht, hn, hspan⟩ := h
    rw [report, ← hspan]
    exact .percent ht hn
  | limit n =>
    obtain ⟨t, ht, hn, hspan⟩ := h
    rw [report, ← hspan]
    exact .limit ht hn

theorem pointsAt_of_premises {names : Names} {ps : List Premise}
    (hps : ∀ p ∈ ps, p.StandsIn ts) {d : Diagnostic} (hd : d ∈ ps.flatMap (Premise.faults names)) :
    PointsAt ts d := by
  obtain ⟨p, hp, hd⟩ := List.mem_flatMap.1 hd
  rw [Premise.eq_report hd]
  exact (hps p hp).pointsAt

/-! ## Rooms and items -/

theorem Declaration.SaidBy.heads {d : Declaration} (h : d.SaidBy ts) {kind : String} {name : Spanned String}
    (hname : d.named? = some (kind, name)) :
    (kind = "room" ∨ kind = "item") ∧
      ∃ title, Heads ts kind name.node title ∧ title.span = name.span := by
  obtain ⟨keyword, title, rest, rfl, hkeyword, hname, hspan⟩ := h.headed kind name hname
  refine ⟨?_, title, ⟨[], keyword, rest, rfl, hkeyword, hname⟩, hspan⟩
  cases d with
  | room decl =>
    cases hname
    exact .inl rfl
  | item decl =>
    cases hname
    exact .inr rfl
  | _ => exact absurd hname nofun

theorem RoomDecl.pointsAt {names : Names} {lexicon : Vocabulary} {decl : RoomDecl}
    (h : (Declaration.room decl).SaidBy ts) {fault : Diagnostic}
    (hfault : fault ∈ (decl.check names lexicon).diagnostics) : PointsAt ts fault := by
  by_cases howns : names.ownsRoom decl.name = true
  · rw [decl.check_diagnostics howns] at hfault
    split at hfault
    · obtain ⟨-, title, htitle, hspan⟩ := h.heads rfl
      rw [List.mem_singleton.1 hfault, ← hspan]
      exact @PointsAt.undescribed ts "room" decl.name.node title (.inl rfl) htitle
    · exact pointsAt_of_premises h.premises hfault
  · rw [check, if_neg howns] at hfault
    exact absurd hfault List.not_mem_nil

namespace ItemDecl

theorem mem_clauses_of_place? {decl : ItemDecl} {place : Spanned Place}
    (h : decl.place? = some place) :
    (⟨.inPlace place.node, place.span⟩ : Spanned ItemClause) ∈ decl.clauses := by
  obtain ⟨⟨node, span⟩, hclause, hplace⟩ := List.mem_filterMap.1 (List.mem_of_getLast? h)
  cases node with
  | inPlace a =>
    obtain rfl := Option.some.inj hplace
    exact hclause
  | _ => exact absurd hplace nofun

theorem pointsAt_of_start {names : Names} {decl : ItemDecl} (h : (Declaration.item decl).SaidBy ts)
    {fault : Diagnostic} (hfault : fault ∈ (decl.checkStart names).diagnostics) :
    PointsAt ts fault := by
  rw [checkStart] at hfault
  split at hfault
  · next span hplace =>
    split at hfault
    · exact absurd hfault List.not_mem_nil
    · rw [List.mem_singleton.1 hfault]
      exact .fixed (h.inInventory decl rfl _ (mem_clauses_of_place? hplace) rfl)
  · next place span _ hplace =>
    rw [Place.check_diagnostics] at hfault
    refine pointsAt_of_premises (fun p hp => h.premises p ?_) hfault
    rw [Declaration.premises, premises_places]
    exact List.mem_flatMap.2 ⟨_, mem_clauses_of_place? hplace, hp⟩
  · split at hfault
    · exact absurd hfault List.not_mem_nil
    · obtain ⟨-, title, htitle, hspan⟩ := h.heads rfl
      rw [List.mem_singleton.1 hfault, ← hspan]
      exact .placeless htitle

theorem pointsAt {names : Names} {decl : ItemDecl} (h : (Declaration.item decl).SaidBy ts)
    {fault : Diagnostic} (hfault : fault ∈ (decl.check names).diagnostics) :
    PointsAt ts fault := by
  by_cases howns : names.ownsItem decl.name = true
  · rw [decl.check_diagnostics howns] at hfault
    split at hfault
    · obtain ⟨-, title, htitle, hspan⟩ := h.heads rfl
      rw [List.mem_singleton.1 hfault, ← hspan]
      exact @PointsAt.undescribed ts "item" decl.name.node title (.inr rfl) htitle
    · exact pointsAt_of_start h hfault
  · rw [check, if_neg howns] at hfault
    exact absurd hfault List.not_mem_nil

end ItemDecl

theorem Declaration.SaidBy.pointsAt {names : Names} {lexicon : Vocabulary} {d : Declaration}
    (h : d.SaidBy ts) {fault : Diagnostic}
    (hfault : fault ∈ (d.checkWorld names lexicon).diagnostics ∨
      fault ∈ d.rulePremises.flatMap (Premise.faults names)) : PointsAt ts fault := by
  cases d with
  | room decl =>
    rcases hfault with hfault | hfault
    · rw [checkWorld, Checked.diagnostics_map] at hfault
      exact RoomDecl.pointsAt h hfault
    · exact absurd hfault List.not_mem_nil
  | item decl =>
    rcases hfault with hfault | hfault
    · rw [checkWorld, Checked.diagnostics_map] at hfault
      exact ItemDecl.pointsAt h hfault
    · exact absurd hfault List.not_mem_nil
  | word decl => exact absurd hfault (by simp [checkWorld, rulePremises, Checked.diagnostics])
  | action decl | occurs body | start name =>
    exact pointsAt_of_premises h.premises (hfault.resolve_left List.not_mem_nil)

/-! ## Names declared twice -/

/-- Whether a diagnostic complains of a declaration that an earlier one of its
kind has the same name. -/
def Repeats (decls : List Declaration) (d : Diagnostic) : Prop :=
  ∃ before decl after earlier kind name earlierName,
    decls = before ++ decl :: after ∧ earlier ∈ before ∧
    earlier.named? = some (kind, earlierName) ∧ decl.named? = some (kind, name) ∧
    lower earlierName.node = lower name.node ∧ d = Names.duplicate kind name earlierName.span

theorem Repeats.append {decls : List Declaration} {d : Diagnostic} (h : Repeats decls d)
    (more : List Declaration) : Repeats (decls ++ more) d := by
  obtain ⟨before, decl, after, earlier, kind, name, earlierName, rfl, h⟩ := h
  exact ⟨before, decl, after ++ more, earlier, kind, name, earlierName, by simp, h⟩

theorem repeats_concat {decls : List Declaration} {last earlier : Declaration} {kind : String}
    {name earlierName : Spanned String} (hmem : earlier ∈ decls)
    (hearlier : earlier.named? = some (kind, earlierName)) (hlast : last.named? = some (kind, name))
    (hsame : lower earlierName.node = lower name.node) :
    Repeats (decls ++ [last]) (Names.duplicate kind name earlierName.span) :=
  ⟨decls, last, [], earlier, kind, name, earlierName, rfl, hmem, hearlier, hlast, hsame, rfl⟩

/-- What is complained of is a name that an earlier declaration of its kind has. -/
theorem Names.repeats_of_mem_duplicates {decls : List Declaration} {d : Diagnostic}
    (h : d ∈ (decls.foldl declare empty).duplicates) : Repeats decls d := by
  induction decls using List.reverseRecOn with
  | nil => exact absurd h List.not_mem_nil
  | append_singleton decls last ih =>
    have hdeclared : (decls.foldl declare empty).DeclaredIn decls :=
      .foldl_declare ⟨nofun, nofun, nofun⟩ fun _ hdecl => hdecl
    rw [List.foldl_append, List.foldl_cons, List.foldl_nil] at h
    cases last with
    | room decl =>
      rw [declare, declareRoom] at h
      split at h
      · next first hfirst =>
        rcases List.mem_append.1 h with h | h
        · exact (ih h).append _
        · have hsame : lower first.name = lower decl.name.node := by
            simpa using List.find?_some hfirst
          obtain ⟨-, earlier, hmem, hname⟩ :=
            hdeclared.rooms first (List.mem_of_find?_eq_some hfirst)
          have hearlier : (Declaration.room earlier).named? = some ("room", earlier.name) := rfl
          have hlast : (Declaration.room decl).named? = some ("room", decl.name) := rfl
          rw [hname] at hearlier
          have hrepeats := repeats_concat hmem hearlier hlast hsame
          rwa [List.mem_singleton.1 h]
      · exact (ih h).append _
    | item decl =>
      rw [declare, declareItem] at h
      split at h
      · next first hfirst =>
        rcases List.mem_append.1 h with h | h
        · exact (ih h).append _
        · have hsame : lower first.name = lower decl.name.node := by
            simpa using List.find?_some hfirst
          obtain ⟨-, earlier, hmem, hname⟩ :=
            hdeclared.items first (List.mem_of_find?_eq_some hfirst)
          have hearlier : (Declaration.item earlier).named? = some ("item", earlier.name) := rfl
          have hlast : (Declaration.item decl).named? = some ("item", decl.name) := rfl
          rw [hname] at hearlier
          have hrepeats := repeats_concat hmem hearlier hlast hsame
          rwa [List.mem_singleton.1 h]
      · exact (ih h).append _
    | _ => exact (ih h).append _

/-- A name that was taken is in the heading of its declaration, behind that of the
declaration that took it. -/
theorem Repeats.pointsAt {decls : List Declaration} {parts : List (List (Spanned Token))}
    (hparts : List.Forall₂ (fun part d => d.SaidBy part) parts decls) {d : Diagnostic}
    (h : Repeats decls d) : PointsAt parts.flatten d := by
  obtain ⟨before, decl, after, earlier, kind, name, earlierName, rfl, hmem, hearlier, hname, hsame,
    rfl⟩ := h
  obtain ⟨first, part, later, rfl, hfirst, hpart, -⟩ := exists_split_of_forall₂ hparts
  obtain ⟨earlierPart, hin, hsaid⟩ := exists_left_of_forall₂ hfirst hmem
  obtain ⟨hkind, title, htitle, hspan⟩ := hpart.heads hname
  obtain ⟨-, earlierTitle, hearlierTitle, hearlierSpan⟩ := hsaid.heads hearlier
  rw [Names.duplicate, ← hspan, ← hearlierSpan]
  refine .duplicate hkind first.flatten (part :: later).flatten (by simp)
    (hearlierTitle.amid (List.infix_of_mem_flatten hin))
    (htitle.amid (List.infix_of_mem_flatten List.mem_cons_self)) hsame

/-! ## Scripts -/

namespace Tree

variable {tree : Tree}

theorem eq_diagnostics_of_compile {ds : List Diagnostic}
    (h : tree.compile = .error (.invalid ds)) : ds = tree.check.diagnostics := by
  rw [compile] at h
  cases hcheck : tree.check with
  | wrong first others =>
    rw [hcheck] at h
    exact (CompileError.invalid.inj (Except.error.inj h)).symm
  | valid parts =>
    obtain ⟨a, ha⟩ := exists_assemble hcheck
    rw [hcheck] at h
    dsimp only at h
    rw [ha] at h
    cases h

theorem pointsAt_of_mem_diagnostics {tokens : List (Spanned Token)}
    (hread : Tree.ofTokens tokens = .ok tree) {d : Diagnostic} (hd : d ∈ tree.check.diagnostics) :
    d = .plain ⟨0, 0⟩ "script declares no rooms" ∨ PointsAt tokens d := by
  obtain ⟨parts, after, rfl, hparts⟩ := exists_saidBy hread
  have hwhole : parts.flatten <:+: parts.flatten ++ after := (List.prefix_append _ _).isInfix
  have hdeclaration : ∀ declaration ∈ tree.declarations,
      d ∈ (declaration.node.checkWorld (Names.ofTree tree) tree.lexicon).diagnostics ∨
        d ∈ declaration.node.rulePremises.flatMap (Premise.faults (Names.ofTree tree)) →
      PointsAt (parts.flatten ++ after) d := by
    intro declaration hmem hfault
    obtain ⟨part, hpart, hsaid⟩ := exists_left_of_forall₂ hparts (List.mem_map_of_mem hmem)
    exact (hsaid.pointsAt hfault).amid ((List.infix_of_mem_flatten hpart).trans hwhole)
  rw [check_diagnostics] at hd
  rcases List.mem_append.1 hd with hrepeated | hd
  · exact .inr ((Names.repeats_of_mem_duplicates hrepeated).pointsAt hparts |>.amid hwhole)
  · rcases List.mem_append.1 hd with hd | hrooms
    · rcases List.mem_append.1 hd with hworld | hrule
      · obtain ⟨declaration, hmem, hfault⟩ := List.mem_flatMap.1 hworld
        exact .inr (hdeclaration declaration hmem (.inl hfault))
      · obtain ⟨declaration, hmem, hfault⟩ := List.mem_flatMap.1 hrule
        exact .inr (hdeclaration declaration hmem (.inr hfault))
    · split at hrooms
      · exact .inl (List.mem_singleton.1 hrooms)
      · exact absurd hrooms List.not_mem_nil

end Tree

/-- Of a source that can be read, each thing that is wrong is reported with the
span of the tokens that it is about, which are whole tokens of the source.  Only
that there are no rooms is not said of any of them. -/
theorem diagnostics_point {source : String} {ds : List Diagnostic}
    (h : compile source = .error (.invalid ds)) :
    ∀ d ∈ ds, d = .plain ⟨0, 0⟩ "script declares no rooms" ∨
      PointsAt (tokens source) d ∧ Covers (tokens source) d.span := by
  intro d hd
  unfold compile at h
  split at h
  · exact absurd h nofun
  · split at h
    · exact absurd h nofun
    · next tree hread =>
      rw [Tree.eq_diagnostics_of_compile h] at hd
      exact (Tree.pointsAt_of_mem_diagnostics hread hd).imp_right fun hpoints =>
        ⟨hpoints, hpoints.covers⟩

namespace Sample

/-- One room has two names that are the same in lower case, an axe cannot be
carried and is, and a rule leads nowhere too often. -/
def faulty : String :=
  "room \"Höhle\" \"Dunkel.\" room \"HÖHLE\" item Axt \"Rostig.\" in inventory " ++
    "occurs when random 200 then goto Turm"

def faultsOfFaulty : List Diagnostic := [
  ⟨⟨29, 37⟩, "duplicate room: \"HÖHLE\"", some "first declared at offset 5"⟩,
  .plain ⟨57, 69⟩ "item \"Axt\" is not portable and cannot start in the inventory",
  .plain ⟨89, 92⟩ "random percentage must be 0 to 100, found 200",
  .plain ⟨103, 107⟩ "undefined room: \"Turm\""]

end Sample

theorem diagnostics_point_sample :
    compile Sample.faulty = .error (.invalid Sample.faultsOfFaulty) ∧
    ∀ d ∈ Sample.faultsOfFaulty,
      PointsAt (tokens Sample.faulty) d ∧ Covers (tokens Sample.faulty) d.span := by
  have hcompile : compile Sample.faulty = .error (.invalid Sample.faultsOfFaulty) := by
    have hfails : (compile Sample.faulty).map (fun _ => ()) =
        .error (.invalid Sample.faultsOfFaulty) := by decide +kernel
    cases hrun : compile Sample.faulty with
    | ok a =>
      rw [hrun] at hfails
      cases hfails
    | error e =>
      rw [hrun] at hfails
      rw [Except.error.inj hfails]
  refine ⟨hcompile, fun d hd => (diagnostics_point hcompile d hd).resolve_left ?_⟩
  rintro rfl
  exact absurd hd (by decide)

end Script
end TextAdventure
