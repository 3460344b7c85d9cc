/-
Conditions that are made of written ones: they hold when those do, from the same
draws, and their words are the words that the script can use.
-/
import TextAdventure.Proofs.Conditions
import TextAdventure.Proofs.Script.Names
import TextAdventure.Script.Compile

namespace TextAdventure

theorem Word.fits_none (w : Word) : w.fits .none = w.isNone := by
  cases w <;> rfl

theorem Word.fits_any (w : Word) : w.fits .any = !w.isNone := by
  cases w <;> rfl

namespace Script

open Condition

variable {tree : Tree} {v : Scope} {s : State}

theorem amount_of_checkPosition {position : Spanned Int64} {p : Nat}
    (h : checkPosition position = .valid p) : amount position = p := by
  unfold checkPosition at h
  split at h
  · exact Checked.valid.inj h
  · exact absurd h Checked.error_ne_valid

/-! ## Patterns -/

namespace Pattern

theorem someHold_map_word (position : Nat) (ws : List Word) (draws : Draws) :
    someHold v s (ws.map (.word position)) draws =
      (ws.any (v.command.word position).fits, draws) := by
  induction ws with
  | nil => rfl
  | cons w rest ih =>
    rw [List.map_cons, someHold, holds, List.any_cons]
    cases (v.command.word position).fits w with
    | true => rfl
    | false => exact ih

theorem takes_eq_any (w : Word) (pattern : Pattern) :
    pattern.takes tree.sense w = (pattern.words tree.lexicon).any w.fits := by
  cases pattern with
  | word token => rw [words, List.any_cons, List.any_nil, Bool.or_false]; rfl
  | any => rw [words, List.any_cons, List.any_nil, Bool.or_false, Word.fits_any]; rfl
  | none => rw [words, List.any_cons, List.any_nil, Bool.or_false, Word.fits_none]; rfl
  | list tokens => rw [words, List.any_map]; rfl

theorem holds_condition (position : Nat) (pattern : Pattern) (draws : Draws) :
    (pattern.condition tree.lexicon position).holds v s draws =
      (pattern.takes tree.sense (v.command.word position), draws) := by
  rw [takes_eq_any]
  unfold condition
  split
  · next w hw => rw [hw, holds, List.any_cons, List.any_nil, Bool.or_false]
  · rw [holds]
    exact someHold_map_word position _ draws

theorem minted_of_mem_words {lexicon : Vocabulary} {pattern : Pattern} {w : Word}
    (h : w ∈ pattern.words lexicon) : w.Within (Minted lexicon) := by
  cases pattern with
  | word token =>
    rw [List.mem_singleton.1 h]
    exact ⟨token, rfl⟩
  | any => rw [List.mem_singleton.1 h]; trivial
  | none => rw [List.mem_singleton.1 h]; trivial
  | list tokens =>
    obtain ⟨token, -, rfl⟩ := List.mem_map.1 h
    exact ⟨token, rfl⟩

theorem wordsOf_map_word (position : Nat) (ws : List Word) :
    wordsOf (ws.map (.word position)) = ws := by
  induction ws with
  | nil => rfl
  | cons w rest ih => rw [List.map_cons, wordsOf, ih]; rfl

theorem within_condition (lexicon : Vocabulary) (position : Nat) (pattern : Pattern) :
    (pattern.condition lexicon position).Within (Minted lexicon) := by
  intro w hw
  unfold condition at hw
  split at hw
  · next u hu =>
    rw [List.mem_singleton.1 hw]
    exact minted_of_mem_words (hu ▸ List.mem_singleton_self u)
  · rw [Condition.words, wordsOf_map_word] at hw
    exact minted_of_mem_words hw

end Pattern

/-! ## Atoms -/

theorem leads_eq (world : World) (room : String) (direction : Word) :
    leads world room direction = (world.room? room).any (·.hasExit direction) := by
  simp only [leads, Room.hasExit, Room.exitTowards, List.isSome_find?]

theorem happens_eq (percent : Nat) (draws : Draws) :
    happens percent draws = (Condition.random percent).holds v s draws := by
  unfold happens
  simp only [holds, byChance, Bool.and_eq_true, decide_eq_true_eq]
  by_cases hzero : percent = 0
  · simp [hzero]
  · have hpos : 0 < percent := Nat.pos_of_ne_zero hzero
    by_cases hlt : percent < 100
    · simp [hzero, hpos, hlt]
    · simp [hzero, hpos, hlt]

namespace Atom

/-- What is made of an atom holds when the atom does. -/
theorem holds_of_check {a : Atom} {c : Condition}
    (h : a.check (Names.ofTree tree) tree.lexicon = .valid c) (draws : Draws) :
    c.holds v s draws = a.holds tree.sense v s draws := by
  cases a with
  | word position pattern =>
    obtain ⟨p, hp, rfl⟩ := Checked.map_eq_valid.1 h
    rw [Pattern.holds_condition, Atom.holds, amount_of_checkPosition hp]
  | unrecognized position =>
    obtain ⟨p, hp, rfl⟩ := Checked.map_eq_valid.1 h
    rw [Condition.holds, Atom.holds, amount_of_checkPosition hp]
  | exitWord position =>
    obtain ⟨p, hp, rfl⟩ := Checked.map_eq_valid.1 h
    rw [Condition.holds, Atom.holds, amount_of_checkPosition hp, leads_eq]
  | exit direction =>
    rw [← Checked.valid.inj h, Condition.holds, Atom.holds, leads_eq]
    rfl
  | random percent =>
    rw [check] at h
    split at h
    · rw [← Checked.valid.inj h, Atom.holds, amount, happens_eq (v := v) (s := s)]
    · exact absurd h Checked.error_ne_valid
  | times limit =>
    rw [check] at h
    split at h
    · rw [← Checked.valid.inj h]; rfl
    · exact absurd h Checked.error_ne_valid
  | inRoom room =>
    obtain ⟨r, hr, rfl⟩ := Checked.map_eq_valid.1 h
    rw [Condition.holds, Atom.holds, Names.sense_of_roomRef hr]
  | here item | carrying item | present item | moved item | inPlay item =>
    obtain ⟨i, hi, rfl⟩ := Checked.map_eq_valid.1 h
    rw [Condition.holds, Atom.holds, Names.sense_of_itemRef hi]
  | flag name | counter name comparison value | string name value | always =>
    rw [← Checked.valid.inj h]; rfl

theorem within_of_check {names : Names} {lexicon : Vocabulary} {a : Atom} {c : Condition}
    (h : a.check names lexicon = .valid c) : c.Within (Minted lexicon) := by
  cases a with
  | word position pattern =>
    obtain ⟨p, -, rfl⟩ := Checked.map_eq_valid.1 h
    exact Pattern.within_condition lexicon p pattern.node
  | exit direction =>
    rw [← Checked.valid.inj h]
    intro w hw
    rw [List.mem_singleton.1 hw]
    exact ⟨direction, rfl⟩
  | random percent | times limit =>
    rw [check] at h
    split at h
    · obtain rfl := Checked.valid.inj h
      exact List.forall_mem_nil _
    · exact absurd h Checked.error_ne_valid
  | unrecognized _ | exitWord _ | inRoom _ | here _ | carrying _ | present _ | moved _
  | inPlay _ =>
    obtain ⟨_, -, rfl⟩ := Checked.map_eq_valid.1 h
    exact List.forall_mem_nil _
  | flag _ | counter _ _ _ | string _ _ | always =>
    obtain rfl := Checked.valid.inj h
    exact List.forall_mem_nil _

end Atom

/-! ## Conditions -/

namespace Guard

mutual
/-- What is made of a written condition holds when the condition does, and takes
the same draws. -/
theorem holds_of_check {g : Guard} {c : Condition}
    (h : g.check (Names.ofTree tree) tree.lexicon = .valid c) (draws : Draws) :
    c.holds v s draws = g.holds tree.sense v s draws := by
  cases g with
  | atom a span => exact Atom.holds_of_check h draws
  | not inner span =>
    obtain ⟨d, hd, rfl⟩ := Checked.map_eq_valid.1 h
    rw [Condition.holds, Guard.holds, holds_of_check hd draws]
  | and parts span =>
    obtain ⟨cs, hcs, rfl⟩ := Checked.map_eq_valid.1 h
    exact allHold_of_checkAll hcs draws
  | or parts span =>
    obtain ⟨cs, hcs, rfl⟩ := Checked.map_eq_valid.1 h
    exact someHold_of_checkAll hcs draws

theorem allHold_of_checkAll {gs : List Guard} {cs : List Condition}
    (h : checkAll (Names.ofTree tree) tree.lexicon gs = .valid cs) (draws : Draws) :
    Condition.allHold v s cs draws = allHold tree.sense v s gs draws := by
  cases gs with
  | nil => rw [← Checked.valid.inj h]; rfl
  | cons g rest =>
    obtain ⟨c, cs, hc, hcs, rfl⟩ := Checked.map₂_eq_valid.1 h
    rw [Condition.allHold, allHold, holds_of_check hc draws]
    obtain ⟨held, left⟩ := holds tree.sense v s g draws
    cases held with
    | true => exact allHold_of_checkAll hcs left
    | false => rfl

theorem someHold_of_checkAll {gs : List Guard} {cs : List Condition}
    (h : checkAll (Names.ofTree tree) tree.lexicon gs = .valid cs) (draws : Draws) :
    Condition.someHold v s cs draws = someHold tree.sense v s gs draws := by
  cases gs with
  | nil => rw [← Checked.valid.inj h]; rfl
  | cons g rest =>
    obtain ⟨c, cs, hc, hcs, rfl⟩ := Checked.map₂_eq_valid.1 h
    rw [Condition.someHold, someHold, holds_of_check hc draws]
    obtain ⟨held, left⟩ := holds tree.sense v s g draws
    cases held with
    | true => rfl
    | false => exact someHold_of_checkAll hcs left
end

mutual
theorem within_of_check {names : Names} {lexicon : Vocabulary} {g : Guard} {c : Condition}
    (h : g.check names lexicon = .valid c) : c.Within (Minted lexicon) := by
  cases g with
  | atom a span => exact Atom.within_of_check h
  | not inner span =>
    obtain ⟨d, hd, rfl⟩ := Checked.map_eq_valid.1 h
    show d.Within (Minted lexicon)
    exact within_of_check hd
  | and parts span | or parts span =>
    obtain ⟨cs, hcs, rfl⟩ := Checked.map_eq_valid.1 h
    exact within_of_checkAll hcs

theorem within_of_checkAll {names : Names} {lexicon : Vocabulary} {gs : List Guard}
    {cs : List Condition} (h : checkAll names lexicon gs = .valid cs) :
    ∀ w ∈ wordsOf cs, w.Within (Minted lexicon) := by
  cases gs with
  | nil =>
    obtain rfl := Checked.valid.inj h
    exact List.forall_mem_nil _
  | cons g rest =>
    obtain ⟨c, cs, hc, hcs, rfl⟩ := Checked.map₂_eq_valid.1 h
    intro w hw
    rw [wordsOf] at hw
    rcases List.mem_append.1 hw with hw | hw
    · exact within_of_check hc w hw
    · exact within_of_checkAll hcs w hw
end

end Guard

end Script
end TextAdventure
