/-
Kinds of declarations.

Words and items make the lexicon, rooms and items the world and the names in it,
actions, rules for every turn and starts the rules.  What a kind makes is the
same however declarations of other kinds stand between, so the compiler reads a
script as three lists.
-/
import TextAdventure.Proofs.Script.Acceptance

namespace TextAdventure
namespace Script

/-! ## Kinds -/

namespace Declaration

/-- Whether a declaration adds to the words that are declared. -/
def isLexical : Declaration → Bool
  | .word _ => true
  | .item _ => true
  | _ => false

/-- Whether a declaration adds to the world. -/
def isWorldly : Declaration → Bool
  | .room _ => true
  | .item _ => true
  | _ => false

def isRule : Declaration → Bool
  | .action _ => true
  | .occurs _ => true
  | .start _ => true
  | _ => false

variable {d : Declaration} {names : Names} {lexicon : Vocabulary}

theorem word?_of_not_lexical (h : d.isLexical = false) : d.word? = none := by
  cases d with
  | word decl => exact absurd h nofun
  | item decl => exact absurd h nofun
  | _ => rfl

theorem declare_of_not_worldly (h : d.isWorldly = false) : names.declare d = names := by
  cases d with
  | room decl => exact absurd h nofun
  | item decl => exact absurd h nofun
  | _ => rfl

theorem exitMentions_of_not_worldly (h : d.isWorldly = false) : d.exitMentions = [] := by
  cases d with
  | room decl => exact absurd h nofun
  | _ => rfl

theorem checkWorld_of_not_worldly (h : d.isWorldly = false) :
    d.checkWorld names lexicon = .valid none := by
  cases d with
  | room decl => exact absurd h nofun
  | item decl => exact absurd h nofun
  | _ => rfl

theorem ruleMentions_of_not_rule (h : d.isRule = false) : d.ruleMentions = [] := by
  cases d with
  | action decl => exact absurd h nofun
  | occurs body => exact absurd h nofun
  | _ => rfl

theorem checkRule_of_not_rule (h : d.isRule = false) :
    d.checkRule names lexicon = .valid none := by
  cases d with
  | action decl => exact absurd h nofun
  | occurs body => exact absurd h nofun
  | start name => exact absurd h nofun
  | _ => rfl

end Declaration

/-! ## What leaves others out -/

section

variable {α β : Type} {p : α → Bool}

theorem foldl_filter_of_skips {f : β → α → β} (h : ∀ b a, p a = false → f b a = b)
    (as : List α) (b : β) : (as.filter p).foldl f b = as.foldl f b := by
  rw [List.foldl_filter]
  congr 1
  funext b a
  cases hp : p a with
  | true => rfl
  | false => exact (h b a hp).symm

theorem filterMap_filter_of_none {f : α → Option β} (h : ∀ a, p a = false → f a = none)
    (as : List α) : (as.filter p).filterMap f = as.filterMap f := by
  rw [List.filterMap_filter]
  refine List.filterMap_congr fun a _ => ?_
  cases hp : p a with
  | true => rfl
  | false => exact (h a hp).symm

theorem flatMap_filter_of_nil {f : α → List β} (h : ∀ a, p a = false → f a = [])
    (as : List α) : (as.filter p).flatMap f = as.flatMap f := by
  induction as with
  | nil => rfl
  | cons a rest ih =>
    cases hp : p a with
    | true => rw [List.filter_cons_of_pos hp, List.flatMap_cons, List.flatMap_cons, ih]
    | false =>
      have hneg : ¬ p a = true := Bool.eq_false_iff.1 hp
      rw [List.filter_cons_of_neg hneg, List.flatMap_cons, h a hp, ih, List.nil_append]

end

namespace Checked

variable {α β γ δ ε : Type}

theorem map₂_map (f : γ → δ → ε) (g : α → γ) (g' : β → δ) (a : Checked α) (b : Checked β) :
    map₂ f (a.map g) (b.map g') = map₂ (fun x y => f (g x) (g' y)) a b := by
  cases a <;> cases b <;> rfl

theorem map_map₂ (g : γ → δ) (f : α → β → γ) (a : Checked α) (b : Checked β) :
    (map₂ f a b).map g = map₂ (fun x y => g (f x y)) a b := by
  cases a <;> cases b <;> rfl

/-- What checks give, without those that give nothing. -/
def gathered (cs : List (Checked (Option α))) : Checked (List α) :=
  (all cs).map (·.filterMap id)

theorem gathered_cons (c : Checked (Option α)) (cs : List (Checked (Option α))) :
    gathered (c :: cs) = map₂ (fun a as => a.toList ++ as) c (gathered cs) := by
  have hcons : ∀ (a : Option α) (as : List (Option α)),
      (a :: as).filterMap id = a.toList ++ as.filterMap id := by
    intro a as
    cases a <;> rfl
  rw [gathered, all, map_map₂]
  simp only [hcons]
  rw [gathered]
  cases c <;> cases all cs <;> rfl

theorem gathered_filter {p : β → Bool} {f : β → Checked (Option α)}
    (h : ∀ b, p b = false → f b = .valid none) (bs : List β) :
    gathered ((bs.filter p).map f) = gathered (bs.map f) := by
  induction bs with
  | nil => rfl
  | cons b rest ih =>
    rw [List.map_cons, gathered_cons]
    cases hp : p b with
    | true => rw [List.filter_cons_of_pos hp, List.map_cons, gathered_cons, ih]
    | false =>
      rw [List.filter_cons_of_neg (Bool.eq_false_iff.1 hp), ih, h b hp]
      cases gathered (rest.map f) <;> rfl

end Checked

/-! ## What each kind makes -/

open Declaration

namespace Tree

variable (tree : Tree)

theorem names_eq : Names.ofTree tree = (tree.nodes.filter isWorldly).foldl .declare .empty := by
  rw [foldl_filter_of_skips fun _ _ => declare_of_not_worldly]
  rfl

theorem lexicon_eq : tree.lexicon = .ofList ((tree.nodes.filter isLexical).filterMap word?) := by
  rw [filterMap_filter_of_none fun _ => word?_of_not_lexical, nodes, List.filterMap_map]
  rfl

theorem mentions_eq : tree.mentions = (tree.nodes.filter isWorldly).flatMap exitMentions ++
    (tree.nodes.filter isRule).flatMap ruleMentions := by
  rw [flatMap_filter_of_nil fun _ => exitMentions_of_not_worldly,
    flatMap_filter_of_nil fun _ => ruleMentions_of_not_rule, nodes, List.flatMap_map,
    List.flatMap_map]
  rfl

/-- What rooms and items give, then what rules give, if there is a room and no
name is taken. -/
theorem check_eq : tree.check =
    .given (Names.ofTree tree).duplicates
      (.map₂ (fun parts _ => parts)
        (.map₂ (· ++ ·)
          (.gathered ((tree.nodes.filter isWorldly).map
            (checkWorld (Names.ofTree tree) tree.lexicon)))
          (.gathered ((tree.nodes.filter isRule).map
            (checkRule (Names.ofTree tree) tree.lexicon))))
        (if (Names.ofTree tree).rooms.isEmpty then .error ⟨0, 0⟩ "script declares no rooms"
          else .valid ())) := by
  have hparts : ∀ a b : List (Option Part),
      (a ++ b).filterMap id = a.filterMap id ++ b.filterMap id := fun _ _ => List.filterMap_append
  rw [Checked.gathered_filter fun _ => checkWorld_of_not_worldly,
    Checked.gathered_filter fun _ => checkRule_of_not_rule, Checked.gathered, Checked.gathered,
    Checked.map₂_map, nodes, List.map_map, List.map_map]
  simp only [← hparts]
  rfl

end Tree

end Script
end TextAdventure
