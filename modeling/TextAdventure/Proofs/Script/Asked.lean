/-
The words that rules ask for.

A rule asks for words at positions of the command and for exits in directions,
and leaves in directions.  In a rule of a script these are the words for the
tokens of the script, each where its token is.  The exception is a condition that
the rule already has: it is left out, but then the rule asks for words of the
same names in the same places.
-/
import TextAdventure.Proofs.Script.Bodies

namespace TextAdventure

/-- Where a word is asked for: at a position of the command, or as the direction
of an exit. -/
inductive Site where
  | position (p : Nat)
  | exit
  deriving DecidableEq

theorem Word.same_refl (w : Word) : w.same w = true := by
  cases w with
  | named x => exact Text.sameName_refl x.name
  | _ => rfl

namespace Condition

mutual
/-- The words that a condition asks for, and where. -/
def asks : Condition → List (Site × Word)
  | .word p w => [(.position p, w)]
  | .exit direction => [(.exit, direction)]
  | .not c => asks c
  | .all cs => asksOf cs
  | .any cs => asksOf cs
  | _ => []

def asksOf : List Condition → List (Site × Word)
  | [] => []
  | c :: rest => asks c ++ asksOf rest
end

mutual
theorem mem_words_of_mem_asks {c : Condition} {ask : Site × Word} (h : ask ∈ c.asks) :
    ask.2 ∈ c.words := by
  cases c with
  | word p w | exit direction =>
    rw [List.mem_singleton.1 h]
    exact List.mem_singleton_self _
  | not c =>
    show ask.2 ∈ c.words
    exact mem_words_of_mem_asks (c := c) h
  | all cs | any cs =>
    have hof : ask ∈ asksOf cs := h
    exact mem_wordsOf_of_mem_asksOf hof
  | _ => exact absurd h List.not_mem_nil

theorem mem_wordsOf_of_mem_asksOf {cs : List Condition} {ask : Site × Word}
    (h : ask ∈ asksOf cs) : ask.2 ∈ wordsOf cs := by
  cases cs with
  | nil => exact absurd h List.not_mem_nil
  | cons c rest =>
    rw [asksOf] at h
    rcases List.mem_append.1 h with h | h
    · exact List.mem_append_left _ (mem_words_of_mem_asks h)
    · exact List.mem_append_right _ (mem_wordsOf_of_mem_asksOf h)
end

mutual
/-- Conditions that are written alike ask for words of the same names. -/
theorem exists_ask_of_same {c d : Condition} (h : c.same d = true) {site : Site} {w : Word}
    (hask : (site, w) ∈ d.asks) : ∃ u, (site, u) ∈ c.asks ∧ u.same w = true := by
  cases d with
  | word q w' =>
    cases c with
    | word p u =>
      obtain ⟨hpq, huw⟩ := Bool.and_eq_true_iff.1 h
      obtain ⟨rfl, rfl⟩ := Prod.mk.inj (List.mem_singleton.1 hask)
      exact ⟨u, by rw [eq_of_beq hpq]; exact List.mem_singleton_self _, huw⟩
    | _ => exact absurd h Bool.false_ne_true
  | exit w' =>
    cases c with
    | exit u =>
      obtain ⟨rfl, rfl⟩ := Prod.mk.inj (List.mem_singleton.1 hask)
      exact ⟨u, List.mem_singleton_self _, h⟩
    | _ => exact absurd h Bool.false_ne_true
  | not d =>
    cases c with
    | not c => exact exists_ask_of_same (c := c) (d := d) h hask
    | _ => exact absurd h Bool.false_ne_true
  | all ds =>
    cases c with
    | all cs =>
      have hall : sameAll cs ds = true := h
      exact exists_ask_of_sameAll hall hask
    | _ => exact absurd h Bool.false_ne_true
  | any ds =>
    cases c with
    | any cs =>
      have hall : sameAll cs ds = true := h
      exact exists_ask_of_sameAll hall hask
    | _ => exact absurd h Bool.false_ne_true
  | _ => exact absurd hask List.not_mem_nil

theorem exists_ask_of_sameAll {cs ds : List Condition} (h : sameAll cs ds = true) {site : Site}
    {w : Word} (hask : (site, w) ∈ asksOf ds) :
    ∃ u, (site, u) ∈ asksOf cs ∧ u.same w = true := by
  cases ds with
  | nil => exact absurd hask List.not_mem_nil
  | cons d ds =>
    cases cs with
    | nil => exact absurd h Bool.false_ne_true
    | cons c cs =>
      obtain ⟨hcd, hrest⟩ := Bool.and_eq_true_iff.1 h
      rw [asksOf] at hask
      rcases List.mem_append.1 hask with hask | hask
      · obtain ⟨u, hu, huw⟩ := exists_ask_of_same hcd hask
        exact ⟨u, List.mem_append_left _ hu, huw⟩
      · obtain ⟨u, hu, huw⟩ := exists_ask_of_sameAll hrest hask
        exact ⟨u, List.mem_append_right _ hu, huw⟩
end

end Condition

namespace Rule

open Condition

end Rule

namespace Script

/-! ## Tokens in their places -/

/-- The tokens of a pattern, at the position that it is for. -/
def Pattern.asks (p : Nat) (pattern : Pattern) : List (Site × String) :=
  pattern.mentions.map fun token => (.position p, token)

def Atom.asks : Atom → List (Site × String)
  | .word position pattern => pattern.node.asks (amount position)
  | .exit direction => [(.exit, direction)]
  | _ => []

namespace Guard

mutual
def asks : Guard → List (Site × String)
  | .atom a _ => a.asks
  | .not inner _ => asks inner
  | .and parts _ => asksOf parts
  | .or parts _ => asksOf parts

def asksOf : List Guard → List (Site × String)
  | [] => []
  | g :: rest => asks g ++ asksOf rest
end

end Guard

/-- The tokens of an action's patterns and conditions. -/
def ActionDecl.asks (decl : ActionDecl) : List (Site × String) :=
  decl.verb.node.asks 1 ++ decl.noun.elim [] (·.node.asks 2) ++ Guard.asksOf decl.body.guards

theorem Atom.mem_mentions_of_ask {a : Atom} {ask : Site × String} (h : ask ∈ a.asks) :
    ask.2 ∈ a.mentions := by
  cases a with
  | word position pattern =>
    obtain ⟨token, htoken, rfl⟩ := List.mem_map.1 h
    exact htoken
  | exit direction =>
    rw [List.mem_singleton.1 h]
    exact List.mem_singleton_self _
  | _ => exact absurd h List.not_mem_nil

namespace Guard

mutual
theorem mem_mentions_of_ask {g : Guard} {ask : Site × String} (h : ask ∈ g.asks) :
    ask.2 ∈ g.mentions := by
  cases g with
  | atom a span => exact Atom.mem_mentions_of_ask h
  | not inner span =>
    show ask.2 ∈ inner.mentions
    exact mem_mentions_of_ask (g := inner) h
  | and parts span | or parts span =>
    have hof : ask ∈ asksOf parts := h
    exact mem_mentionsOf_of_ask hof

theorem mem_mentionsOf_of_ask {gs : List Guard} {ask : Site × String} (h : ask ∈ asksOf gs) :
    ask.2 ∈ mentionsOf gs := by
  cases gs with
  | nil => exact absurd h List.not_mem_nil
  | cons g rest =>
    rw [asksOf] at h
    rcases List.mem_append.1 h with h | h
    · exact List.mem_append_left _ (mem_mentions_of_ask h)
    · exact List.mem_append_right _ (mem_mentionsOf_of_ask h)
end

end Guard

namespace RuleBody

theorem mem_mentions_of_ask {body : RuleBody} {ask : Site × String}
    (h : ask ∈ Guard.asksOf body.guards) : ask.2 ∈ body.mentions :=
  List.mem_append_left _ (Guard.mem_mentionsOf_of_ask h)

end RuleBody

theorem ActionDecl.mem_mentions_of_ask {decl : ActionDecl} {ask : Site × String}
    (h : ask ∈ decl.asks) : ask.2 ∈ (Declaration.action decl).ruleMentions := by
  rcases List.mem_append.1 h with h | h
  · refine List.mem_append_left _ ?_
    rcases List.mem_append.1 h with h | h
    · obtain ⟨token, htoken, rfl⟩ := List.mem_map.1 h
      exact List.mem_append_left _ htoken
    · refine List.mem_append_right _ ?_
      cases hnoun : decl.noun with
      | none =>
        rw [hnoun] at h
        exact absurd h List.not_mem_nil
      | some noun =>
        rw [hnoun] at h
        obtain ⟨token, htoken, rfl⟩ := List.mem_map.1 h
        exact htoken
  · exact List.mem_append_right _ (RuleBody.mem_mentions_of_ask h)

namespace Declaration

end Declaration

/-! ## Words in the places of tokens -/

variable {names : Names} {lexicon : Vocabulary}

/-- Whether words are asked for where tokens are, each the word of its token. -/
def Asked (lexicon : Vocabulary) (tokens : List (Site × String)) (words : List (Site × Word)) :
    Prop :=
  ∀ site token, (site, token) ∈ tokens → (site, .named (wordFor lexicon token)) ∈ words

theorem Asked.append {tokens tokens' : List (Site × String)} {words words' : List (Site × Word)}
    (h : Asked lexicon tokens words) (h' : Asked lexicon tokens' words') :
    Asked lexicon (tokens ++ tokens') (words ++ words') := by
  intro site token hmem
  rcases List.mem_append.1 hmem with hmem | hmem
  · exact List.mem_append_left _ (h site token hmem)
  · exact List.mem_append_right _ (h' site token hmem)

theorem asked_nil (words : List (Site × Word)) : Asked lexicon [] words :=
  fun _ _ hmem => absurd hmem List.not_mem_nil

namespace Pattern

theorem mem_words {pattern : Pattern} {token : String} (h : token ∈ pattern.mentions) :
    .named (wordFor lexicon token) ∈ pattern.words lexicon := by
  cases pattern with
  | word t =>
    rw [List.mem_singleton.1 h]
    exact List.mem_singleton_self _
  | list tokens => exact List.mem_map_of_mem h
  | any => exact absurd h List.not_mem_nil
  | none => exact absurd h List.not_mem_nil

theorem asksOf_map_word (p : Nat) (ws : List Word) :
    Condition.asksOf (ws.map (.word p)) = ws.map fun w => (.position p, w) := by
  induction ws with
  | nil => rfl
  | cons w rest ih => rw [List.map_cons, Condition.asksOf, ih]; rfl

theorem asks_condition (lexicon : Vocabulary) (p : Nat) (pattern : Pattern) :
    (pattern.condition lexicon p).asks = (pattern.words lexicon).map fun w => (.position p, w) := by
  unfold condition
  split
  · next w hw => rw [hw]; rfl
  · exact asksOf_map_word p _

theorem asked (p : Nat) (pattern : Pattern) :
    Asked lexicon (pattern.asks p) (pattern.condition lexicon p).asks := by
  intro site token hmem
  obtain ⟨t, ht, heq⟩ := List.mem_map.1 hmem
  obtain ⟨rfl, rfl⟩ := Prod.mk.inj heq
  rw [asks_condition]
  exact List.mem_map_of_mem (mem_words ht)

end Pattern

theorem Atom.asked_of_check {a : Atom} {c : Condition} (h : a.check names lexicon = .valid c) :
    Asked lexicon a.asks c.asks := by
  cases a with
  | word position pattern =>
    obtain ⟨p, hp, rfl⟩ := Checked.map_eq_valid.1 h
    rw [asks, amount_of_checkPosition hp]
    exact pattern.node.asked p
  | exit direction =>
    obtain rfl := Checked.valid.inj h
    intro site token hmem
    obtain ⟨rfl, rfl⟩ := Prod.mk.inj (List.mem_singleton.1 hmem)
    exact List.mem_singleton_self _
  | _ => exact asked_nil _

namespace Guard

mutual
theorem asked_of_check {g : Guard} {c : Condition} (h : g.check names lexicon = .valid c) :
    Asked lexicon g.asks c.asks := by
  cases g with
  | atom a span => exact Atom.asked_of_check h
  | not inner span =>
    obtain ⟨d, hd, rfl⟩ := Checked.map_eq_valid.1 h
    show Asked lexicon inner.asks d.asks
    exact asked_of_check hd
  | and parts span | or parts span =>
    obtain ⟨cs, hcs, rfl⟩ := Checked.map_eq_valid.1 h
    exact asked_of_checkAll hcs

theorem asked_of_checkAll {gs : List Guard} {cs : List Condition}
    (h : checkAll names lexicon gs = .valid cs) :
    Asked lexicon (asksOf gs) (Condition.asksOf cs) := by
  cases gs with
  | nil => exact asked_nil _
  | cons g rest =>
    obtain ⟨c, cs, hc, hcs, rfl⟩ := Checked.map₂_eq_valid.1 h
    rw [asksOf, Condition.asksOf]
    exact (asked_of_check hc).append (asked_of_checkAll hcs)
end

end Guard

/-! ## Rules -/

namespace RuleBody

end RuleBody

end Script
end TextAdventure
