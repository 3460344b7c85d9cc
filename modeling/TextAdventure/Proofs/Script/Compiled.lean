/-
What an adventure that compiles is made of.

Every declaration has passed its checks and contributes its part: a room or an
item to the world, an action or an occurs to the rules.  Hence every reference
in a script that compiles is to something of that very name in the world.
-/
import TextAdventure.Proofs.Script.Bodies
import TextAdventure.Proofs.World

namespace TextAdventure

theorem Adventure.new_eq_ok {w : World} {v : Vocabulary} {occurs actions : List Rule}
    {start : String} {a : Adventure} (h : Adventure.new w v occurs actions start = .ok a) :
    a.world = w ∧ a.vocabulary = v ∧ a.occurs = occurs ∧ a.actions = actions := by
  unfold Adventure.new at h
  split at h
  · exact absurd h nofun
  · rw [← Except.ok.inj h]
    exact ⟨rfl, rfl, rfl, rfl⟩

namespace Script

/-- An adventure and the parts that the declarations contribute to it: those to
the world and those to the rules, one of each for every declaration. -/
structure MadeOf (tree : Tree) (a : Adventure) (world rules : List (Option Part)) : Prop where
  distinct : (Names.ofTree tree).duplicates = []
  checkedWorld : List.Forall₂
    (fun d p => d.node.checkWorld (Names.ofTree tree) tree.lexicon = .valid p)
    tree.declarations world
  checkedRules : List.Forall₂
    (fun d p => d.node.checkRule (Names.ofTree tree) tree.lexicon = .valid p)
    tree.declarations rules
  rooms : a.world.rooms = world.filterMap (·.bind Part.room?)
  items : a.world.items = world.filterMap (·.bind Part.item?)
  occurs : a.occurs = rules.filterMap (·.bind Part.occurs?)
  actions : a.actions = rules.filterMap (·.bind Part.action?)
  vocabulary : a.vocabulary = tree.vocabulary

/-! ## Parts -/

theorem checkWorld_eq_valid {names : Names} {lexicon : Vocabulary} {d : Declaration}
    {p : Option Part} (h : d.checkWorld names lexicon = .valid p) :
    (∃ decl r, d = .room decl ∧ decl.check names lexicon = .valid r ∧ p = r.map .room) ∨
    (∃ decl i, d = .item decl ∧ decl.check names = .valid i ∧ p = i.map .item) ∨ p = none := by
  cases d with
  | room decl =>
    obtain ⟨r, hr, rfl⟩ := Checked.map_eq_valid.1 h
    exact .inl ⟨decl, r, rfl, hr, rfl⟩
  | item decl =>
    obtain ⟨i, hi, rfl⟩ := Checked.map_eq_valid.1 h
    exact .inr (.inl ⟨decl, i, rfl, hi, rfl⟩)
  | _ => exact .inr (.inr (Checked.valid.inj h).symm)

theorem checkRule_eq_valid {names : Names} {lexicon : Vocabulary} {d : Declaration}
    {p : Option Part} (h : d.checkRule names lexicon = .valid p) :
    (∃ decl r, d = .action decl ∧ decl.check names lexicon = .valid r ∧ p = some (.action r)) ∨
    (∃ body r, d = .occurs body ∧ body.check names lexicon .empty = .valid r ∧
      p = some (.occurs r)) ∨
    (∃ name n, d = .start name ∧ names.roomRef name = .valid n ∧ p = some (.start n)) ∨
    (d.action? = none ∧ d.occurs? = none ∧ p = none) := by
  cases d with
  | action decl =>
    obtain ⟨r, hr, rfl⟩ := Checked.map_eq_valid.1 h
    exact .inl ⟨decl, r, rfl, hr, rfl⟩
  | occurs body =>
    obtain ⟨r, hr, rfl⟩ := Checked.map_eq_valid.1 h
    exact .inr (.inl ⟨body, r, rfl, hr, rfl⟩)
  | start name =>
    obtain ⟨n, hn, rfl⟩ := Checked.map_eq_valid.1 h
    exact .inr (.inr (.inl ⟨name, n, rfl, hn, rfl⟩))
  | _ => exact .inr (.inr (.inr ⟨rfl, rfl, (Checked.valid.inj h).symm⟩))

/-- What is picked from the parts of the rules only is not found among those of
the world. -/
theorem filterMap_world_eq_nil {α : Type} {pick : Part → Option α}
    (hroom : ∀ r, pick (.room r) = none) (hitem : ∀ i, pick (.item i) = none)
    {names : Names} {lexicon : Vocabulary} {ds : List (Spanned Declaration)}
    {ps : List (Option Part)}
    (h : List.Forall₂ (fun d p => d.node.checkWorld names lexicon = .valid p) ds ps) :
    ps.filterMap (·.bind pick) = [] := by
  induction h with
  | nil => rfl
  | cons hp _ ih =>
    rcases checkWorld_eq_valid hp with ⟨_, r, -, -, rfl⟩ | ⟨_, i, -, -, rfl⟩ | rfl
    · cases r <;> simp [hroom, ih]
    · cases i <;> simp [hitem, ih]
    · simp [ih]

theorem filterMap_rules_eq_nil {α : Type} {pick : Part → Option α}
    (haction : ∀ r, pick (.action r) = none) (hoccurs : ∀ r, pick (.occurs r) = none)
    (hstart : ∀ n, pick (.start n) = none)
    {names : Names} {lexicon : Vocabulary} {ds : List (Spanned Declaration)}
    {ps : List (Option Part)}
    (h : List.Forall₂ (fun d p => d.node.checkRule names lexicon = .valid p) ds ps) :
    ps.filterMap (·.bind pick) = [] := by
  induction h with
  | nil => rfl
  | cons hp _ ih =>
    rcases checkRule_eq_valid hp with ⟨_, r, -, -, rfl⟩ | ⟨_, r, -, -, rfl⟩ | ⟨_, n, -, -, rfl⟩ |
      ⟨-, -, rfl⟩
    · simp [haction, ih]
    · simp [hoccurs, ih]
    · simp [hstart, ih]
    · simp [ih]

theorem filterMap_parts {α : Type} (pick : Part → Option α) (world rules : List (Option Part)) :
    ((world ++ rules).filterMap id).filterMap pick =
      world.filterMap (·.bind pick) ++ rules.filterMap (·.bind pick) := by
  rw [List.filterMap_filterMap, List.filterMap_append]
  rfl

/-! ## Success -/

namespace Tree

theorem check_eq_valid {tree : Tree} {parts : List Part} (h : tree.check = .valid parts) :
    (Names.ofTree tree).duplicates = [] ∧ ∃ world rules,
      List.Forall₂ (fun d p => d.node.checkWorld (Names.ofTree tree) tree.lexicon = .valid p)
        tree.declarations world ∧
      List.Forall₂ (fun d p => d.node.checkRule (Names.ofTree tree) tree.lexicon = .valid p)
        tree.declarations rules ∧
      parts = (world ++ rules).filterMap id := by
  obtain ⟨hdistinct, hparts⟩ := Checked.given_eq_valid.1 h
  obtain ⟨_, _, hboth, -, rfl⟩ := Checked.map₂_eq_valid.1 hparts
  obtain ⟨world, rules, hworld, hrules, rfl⟩ := Checked.map₂_eq_valid.1 hboth
  exact ⟨hdistinct, world, rules, Checked.all_map_eq_valid.1 hworld,
    Checked.all_map_eq_valid.1 hrules, rfl⟩

theorem assemble_eq_ok {tree : Tree} {parts : List Part} {a : Adventure}
    (h : tree.assemble parts = .ok a) :
    a.world.rooms = parts.filterMap Part.room? ∧ a.world.items = parts.filterMap Part.item? ∧
      a.occurs = parts.filterMap Part.occurs? ∧ a.actions = parts.filterMap Part.action? ∧
      a.vocabulary = tree.vocabulary := by
  unfold assemble at h
  split at h
  · exact absurd h nofun
  · next w hrooms =>
    split at h
    · exact absurd h nofun
    · next w' hitems =>
      obtain ⟨hr, hi⟩ := World.addRooms_eq_ok hrooms
      obtain ⟨hr', hi'⟩ := World.addItems_eq_ok hitems
      obtain ⟨rfl, hvocabulary, hoccurs, hactions⟩ := Adventure.new_eq_ok h
      refine ⟨?_, ?_, hoccurs, hactions, hvocabulary⟩
      · rw [hr', hr]; rfl
      · rw [hi', hi]; rfl

theorem exists_parts_of_compile {tree : Tree} {a : Adventure} (h : tree.compile = .ok a) :
    ∃ parts, tree.check = .valid parts ∧ tree.assemble parts = .ok a := by
  unfold compile at h
  split at h
  · exact absurd h nofun
  · next parts hcheck =>
    split at h
    · next a' hassemble =>
      obtain rfl : a' = a := Except.ok.inj h
      exact ⟨parts, hcheck, hassemble⟩
    · exact absurd h nofun

/-- What compiles has passed every check, and is put together of its parts. -/
theorem exists_madeOf {tree : Tree} {a : Adventure} (h : tree.compile = .ok a) :
    ∃ world rules, MadeOf tree a world rules := by
  obtain ⟨parts, hcheck, hassemble⟩ := exists_parts_of_compile h
  obtain ⟨hdistinct, world, rules, hworld, hrules, rfl⟩ := check_eq_valid hcheck
  obtain ⟨hr, hi, ho, ha, hv⟩ := assemble_eq_ok hassemble
  refine ⟨world, rules, ⟨hdistinct, hworld, hrules, ?_, ?_, ?_, ?_, hv⟩⟩
  · rw [hr, filterMap_parts, filterMap_rules_eq_nil (fun _ => rfl) (fun _ => rfl)
      (fun _ => rfl) hrules, List.append_nil]
  · rw [hi, filterMap_parts, filterMap_rules_eq_nil (fun _ => rfl) (fun _ => rfl)
      (fun _ => rfl) hrules, List.append_nil]
  · rw [ho, filterMap_parts, filterMap_world_eq_nil (fun _ => rfl) (fun _ => rfl) hworld,
      List.nil_append]
  · rw [ha, filterMap_parts, filterMap_world_eq_nil (fun _ => rfl) (fun _ => rfl) hworld,
      List.nil_append]

end Tree

/-- Whether a script compiles, to an adventure that passes a test. -/
def Tree.compilesTo (tree : Tree) (test : Adventure → Bool) : Bool :=
  match tree.compile with
  | .ok a => test a
  | .error _ => false

theorem Tree.exists_of_compilesTo {tree : Tree} {test : Adventure → Bool}
    (h : tree.compilesTo test = true) : ∃ a, tree.compile = .ok a ∧ test a = true := by
  unfold compilesTo at h
  cases hcompile : tree.compile with
  | ok a =>
    rw [hcompile] at h
    exact ⟨a, rfl, h⟩
  | error e =>
    rw [hcompile] at h
    exact absurd h Bool.false_ne_true

/-! ## Where the parts come from -/

namespace MadeOf

variable {tree : Tree} {a : Adventure} {world rules : List (Option Part)}

theorem exists_room (made : MadeOf tree a world rules) {r : Room} (hr : r ∈ a.world.rooms) :
    ∃ decl : RoomDecl, decl.check (Names.ofTree tree) tree.lexicon = .valid (some r) := by
  rw [made.rooms] at hr
  obtain ⟨p, hp, hpick⟩ := List.mem_filterMap.1 hr
  obtain ⟨d, -, hd⟩ := exists_left_of_forall₂ made.checkedWorld hp
  rcases checkWorld_eq_valid hd with ⟨decl, r', -, hr', rfl⟩ | ⟨decl, i, -, -, rfl⟩ | rfl
  · cases r' with
    | none => exact absurd hpick nofun
    | some r' =>
      obtain rfl : r' = r := Option.some.inj hpick
      exact ⟨decl, hr'⟩
  · cases i <;> exact absurd hpick nofun
  · exact absurd hpick nofun

theorem exists_item (made : MadeOf tree a world rules) {i : Item} (hi : i ∈ a.world.items) :
    ∃ decl : ItemDecl, decl.check (Names.ofTree tree) = .valid (some i) := by
  rw [made.items] at hi
  obtain ⟨p, hp, hpick⟩ := List.mem_filterMap.1 hi
  obtain ⟨d, -, hd⟩ := exists_left_of_forall₂ made.checkedWorld hp
  rcases checkWorld_eq_valid hd with ⟨decl, r, -, -, rfl⟩ | ⟨decl, i', -, hi', rfl⟩ | rfl
  · cases r <;> exact absurd hpick nofun
  · cases i' with
    | none => exact absurd hpick nofun
    | some i' =>
      obtain rfl : i' = i := Option.some.inj hpick
      exact ⟨decl, hi'⟩
  · exact absurd hpick nofun

/-- The actions come from those of the script, one of each and in its order. -/
theorem actions_checked (made : MadeOf tree a world rules) :
    List.Forall₂ (fun decl r => decl.check (Names.ofTree tree) tree.lexicon = .valid r)
      tree.actions a.actions := by
  rw [made.actions]
  refine List.rel_filterMap (fun d p hp => ?_) made.checkedRules
  rcases checkRule_eq_valid hp with ⟨decl, r, hd, hr, rfl⟩ | ⟨body, r, hd, -, rfl⟩ |
    ⟨name, n, hd, -, rfl⟩ | ⟨hd, -, rfl⟩
  · rw [hd]
    exact .some hr
  · rw [hd]
    exact .none
  · rw [hd]
    exact .none
  · rw [hd]
    exact .none

theorem occurs_checked (made : MadeOf tree a world rules) :
    List.Forall₂ (fun body r => body.check (Names.ofTree tree) tree.lexicon .empty = .valid r)
      tree.occurs a.occurs := by
  rw [made.occurs]
  refine List.rel_filterMap (fun d p hp => ?_) made.checkedRules
  rcases checkRule_eq_valid hp with ⟨decl, r, hd, -, rfl⟩ | ⟨body, r, hd, hr, rfl⟩ |
    ⟨name, n, hd, -, rfl⟩ | ⟨-, hd, rfl⟩
  · rw [hd]
    exact .none
  · rw [hd]
    exact .some hr
  · rw [hd]
    exact .none
  · rw [hd]
    exact .none

/-- Every rule is made of a body, from one that asks for words of the script
and does nothing. -/
theorem exists_body (made : MadeOf tree a world rules) {r : Rule}
    (hr : r ∈ a.occurs ++ a.actions) :
    ∃ (body : RuleBody) (r₀ : Rule), (∀ c ∈ r₀.conditions, c.Within (Minted tree.lexicon)) ∧
      r₀.effects = [] ∧ body.check (Names.ofTree tree) tree.lexicon r₀ = .valid r := by
  rcases List.mem_append.1 hr with hr | hr
  · obtain ⟨body, -, hbody⟩ := exists_left_of_forall₂ made.occurs_checked hr
    exact ⟨body, .empty, List.forall_mem_nil _, rfl, hbody⟩
  · obtain ⟨decl, -, hdecl⟩ := exists_left_of_forall₂ made.actions_checked hr
    exact ⟨decl.body, decl.pattern tree.lexicon, decl.within_pattern tree.lexicon,
      decl.pattern_effects tree.lexicon, hdecl⟩

end MadeOf

/-! ## A small script -/

namespace Sample

def piece {α : Type} (offset : Nat) (a : α) : Spanned α := ⟨a, ⟨offset, offset + 1⟩⟩

def hall : RoomDecl where
  name := piece 0 "Hall"
  description := some "A hall."
  exits := [⟨piece 1 "north", some (piece 2 "garden")⟩]

def garden : RoomDecl where
  name := piece 3 "Garden"
  description := some "A garden."
  exits := [⟨piece 4 "south", some (piece 5 "HALL")⟩]

def lamp : ItemDecl where
  name := piece 6 "Lamp"
  description := some "A lamp."
  clauses := [piece 7 (.otherName "lantern")]

/-- Its condition is repeated, and its second clause starts over. -/
def leave : ActionDecl where
  verb := piece 8 (.list ["go", "walk"])
  noun := some (piece 9 .any)
  body := {
    guards := [.atom (.exitWord (piece 10 2)) ⟨10, 11⟩, .atom (.exitWord (piece 11 2)) ⟨11, 12⟩]
    clauses := [[piece 12 .inventory], [piece 13 (.goWord (piece 14 2)), piece 15 .look]] }

/-- It asks for the exit in other letters than it leaves by. -/
def climb : ActionDecl where
  verb := piece 31 (.word "climb")
  noun := none
  body := {
    guards := [.atom (.exit "NORTH") ⟨32, 33⟩]
    clauses := [[piece 33 (.println "Up you go."), piece 34 (.go "north")]] }

def take : ActionDecl where
  verb := piece 16 (.word "take")
  noun := some (piece 17 (.word "LANTERN"))
  body := {
    guards := [.atom (.here (piece 18 "lamp")) ⟨18, 19⟩]
    clauses := [[piece 19 (.get (piece 20 "lamp"))]] }

/-- It is left to chance, and hence says so twice. -/
def flicker : RuleBody where
  guards := [.atom (.random (piece 21 50)) ⟨21, 22⟩, .atom (.random (piece 22 50)) ⟨22, 23⟩]
  clauses := [[piece 23 (.println "The lamp flickers.")]]

def tree : Tree where
  declarations := [piece 24 (.room hall), piece 25 (.item lamp), piece 26 (.room garden),
    piece 27 (.action leave), piece 28 (.action take), piece 29 (.occurs flicker),
    piece 30 (.action climb)]

end Sample

end Script
end TextAdventure
