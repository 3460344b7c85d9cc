/-
Names, places and patterns are read as the grammar has them.
-/
import TextAdventure.Proofs.Syntax.Deciding
import TextAdventure.Proofs.Syntax.Phrase

namespace TextAdventure
namespace Script
namespace Grammar

open Reader

variable {n : Nat} {ok : List Token → Prop} {c : Cursor}

/-! ## Single tokens -/

theorem decides_identifier : DecidesAt identifier (fun w => [.word w]) ok (· = ·) c := by
  refine .take (fun t w h => ?_) (fun w => Option.some_ne_none w) fun _ _ => Token.word.inj
  cases t with
  | word w' => exact ⟨w', rfl, (Option.some.inj h).symm⟩
  | _ => exact absurd h nofun

theorem decides_placedWord :
    DecidesAt (spanned identifier) (fun w => [.word w]) ok (fun a w => a.bare = unplaced w) c :=
  .spanned (decides_identifier.imp fun _ _ h _ => congrArg unplaced h)

theorem decides_string : DecidesAt string (fun s => [.string s]) ok (· = ·) c := by
  refine .take (fun t s h => ?_) (fun s => Option.some_ne_none s) fun _ _ => Token.string.inj
  cases t with
  | string s' => exact ⟨s', rfl, (Option.some.inj h).symm⟩
  | _ => exact absurd h nofun

theorem decides_integer : DecidesAt integer (fun i => [.integer i]) ok (· = ·) c := by
  refine .take (fun t i h => ?_) (fun i => Option.some_ne_none i) fun _ _ => Token.integer.inj
  cases t with
  | integer i' => exact ⟨i', rfl, (Option.some.inj h).symm⟩
  | _ => exact absurd h nofun

theorem decides_position :
    DecidesAt (spanned integer) (fun i => [.integer i]) ok (fun a i => a.bare = unplaced i) c :=
  .spanned (decides_integer.imp fun _ _ h _ => congrArg unplaced h)

theorem decides_comparison :
    DecidesAt comparison (fun x => [.compare x]) ok (· = ·) c := by
  refine .take (fun t x h => ?_) (fun x => Option.some_ne_none x) fun _ _ => Token.compare.inj
  cases t with
  | compare x' => exact ⟨x', rfl, (Option.some.inj h).symm⟩
  | _ => exact absurd h nofun

theorem decides_name :
    DecidesAt name (fun x : Phrase.Name => [x.token]) ok (fun a x => a.bare = x.tree) c := by
  refine .spanned (.take (fun t w h => ?_) (fun x => ?_) fun x y h => ?_)
  · cases t with
    | word w' =>
      dsimp only at h
      split at h
      · exact absurd h nofun
      · next hfree =>
        obtain rfl := Option.some.inj h
        exact ⟨.bare w' (Bool.eq_false_iff.2 hfree), rfl, fun _ => rfl⟩
    | string s =>
      obtain rfl := Option.some.inj h
      exact ⟨.quoted s, rfl, fun _ => rfl⟩
    | _ => exact absurd h nofun
  · cases x with
    | bare w hfree => simp [Phrase.Name.token, hfree]
    | quoted s => simp [Phrase.Name.token]
  · cases x <;> cases y <;> simp_all [Phrase.Name.token]

theorem decides_patternWord :
    DecidesAt patternWord (fun w : Phrase.PatternWord => [w.token]) ok (fun a w => a = w.word)
      c := by
  refine .take (fun t w h => ?_) (fun w => ?_) fun v w h => ?_
  · cases t with
    | word w' =>
      dsimp only at h
      split at h
      · exact absurd h nofun
      · next hfree =>
        obtain rfl := Option.some.inj h
        exact ⟨⟨w', Bool.eq_false_iff.2 hfree⟩, rfl, rfl⟩
    | _ => exact absurd h nofun
  · simp [Phrase.PatternWord.token, w.allowed]
  · cases v
    cases w
    obtain rfl := Token.word.inj h
    rfl

/-! ## Words that are read as themselves -/

theorem token_ne_word {x : Phrase.Name} {w : String} (hw : isReserved w = true) :
    x.token ≠ .word w := by
  cases x with
  | bare w' hfree =>
    intro h
    rw [Token.word.inj h, hw] at hfree
    exact absurd hfree.symm Bool.false_ne_true
  | quoted s => exact nofun

theorem patternWord_ne_word {x : Phrase.PatternWord} {w : String} (hw : endsPattern w = true) :
    x.token ≠ .word w := by
  intro h
  have hfree := x.allowed
  rw [Token.word.inj h, hw] at hfree
  exact absurd hfree.symm Bool.false_ne_true

theorem decides_place :
    DecidesAt place (fun x : Phrase.Place => [x.token]) ok (fun a x => a.bare = x.tree) c := by
  refine .peek ?_
  split
  · next hhead =>
    refine .sole .nowhere rfl rfl ?_
    intro e r hr _
    rw [hr] at hhead
    cases e with
    | room x => exact absurd (Option.some.inj hhead) (token_ne_word (by decide))
    | nowhere => rfl
    | inventory => exact absurd (Option.some.inj hhead) (by decide)
  · next hhead =>
    refine .sole .inventory rfl rfl ?_
    intro e r hr _
    rw [hr] at hhead
    cases e with
    | room x => exact absurd (Option.some.inj hhead) (token_ne_word (by decide))
    | nowhere => exact absurd (Option.some.inj hhead) (by decide)
    | inventory => rfl
  · next hnowhere hinventory =>
    refine .narrow (g := .room) (.map (decides_name.imp ?_)) ?_ fun _ => rfl
    · intro a x h
      rw [Place.bare, h, Phrase.Place.tree]
    · intro e r hr _
      cases e with
      | room x => exact ⟨x, rfl⟩
      | nowhere => exact absurd (hr ▸ rfl) hnowhere
      | inventory => exact absurd (hr ▸ rfl) hinventory

/-! ## Patterns -/

theorem map_eq_of_forall₂ {α β D : Type} {f : α → β} {g : D → β} {as : List α} {ds : List D}
    (h : List.Forall₂ (fun a d => f a = g d) as ds) : as.map f = ds.map g := by
  induction h with
  | nil => rfl
  | cons hhead _ ih => rw [List.map_cons, List.map_cons, hhead, ih]

theorem decides_patternList :
    DecidesAt (do
        expect .leftBracket
        let first ← patternWord
        let others ← many (· == .comma) do
          expect .comma
          patternWord
        expect .rightBracket
        return Pattern.list (first :: others))
      (fun x : Phrase.PatternWord × List Phrase.PatternWord =>
        (Phrase.Pattern.list x.1 x.2).tokens) ok
      (fun a x => a = (Phrase.Pattern.list x.1 x.2).tree) c := by
  have hothers : ∀ c, DecidesAt (many (· == .comma) do
        expect .comma
        patternWord)
      (fun ws : List Phrase.PatternWord => ws.flatMap fun w => [.comma, w.token])
      (Free (· == .comma)) (List.Forall₂ fun a w => a = w.word) c :=
    fun c => .others (fun _ _ => decides_patternWord) (Nat.le_refl _) (fun _ => trivial)
      fun _ hr => ⟨trivial, hr⟩
  show DecidesAt _ (fun x => .leftBracket :: both (fun w : Phrase.PatternWord => [w.token])
    (fun ws : List Phrase.PatternWord => (ws.flatMap fun w => [.comma, w.token]) ++
      [.rightBracket]) x) ok _ c
  refine .skip ?_
  intro c' _
  refine decides_patternWord.seq ?_
  intro first w c' hfirst _
  refine .close ((hothers c').imp ?_) fun r => Free.cons.2 rfl
  intro others ws hws
  rw [hfirst, Phrase.Pattern.tree, ← map_eq_of_forall₂ hws, List.map_id']

theorem decides_pattern :
    DecidesAt pattern Phrase.Pattern.tokens ok (fun a x => a.bare = unplaced x.tree) c := by
  refine .spanned (.peek ?_)
  split
  · next hhead =>
    refine .sole .any rfl (fun _ => rfl) ?_
    intro e r hr _
    rw [hr] at hhead
    cases e with
    | word w => exact absurd (Option.some.inj hhead) (patternWord_ne_word (by decide))
    | any => rfl
    | none => exact absurd (Option.some.inj hhead) (by decide)
    | list first others => exact absurd (Option.some.inj hhead) nofun
  · next hhead =>
    refine .sole .none rfl (fun _ => rfl) ?_
    intro e r hr _
    rw [hr] at hhead
    cases e with
    | word w => exact absurd (Option.some.inj hhead) (patternWord_ne_word (by decide))
    | any => exact absurd (Option.some.inj hhead) (by decide)
    | none => rfl
    | list first others => exact absurd (Option.some.inj hhead) nofun
  · next hhead =>
    refine .narrow (g := fun x => .list x.1 x.2) (decides_patternList.imp ?_) ?_ fun _ => rfl
    · intro a x h span
      rw [h]
      rfl
    · intro e r hr _
      rw [hr] at hhead
      cases e with
      | list first others => exact ⟨(first, others), rfl⟩
      | _ => exact absurd (Option.some.inj hhead) nofun
  · next hany hnone hlist =>
    refine .narrow (g := .word) (.map (decides_patternWord.imp ?_)) ?_ fun _ => rfl
    · intro a w h span
      rw [h]
      rfl
    · intro e r hr _
      cases e with
      | word w => exact ⟨w, rfl⟩
      | any => exact absurd (hr ▸ rfl) hany
      | none => exact absurd (hr ▸ rfl) hnone
      | list first others => exact absurd (hr ▸ rfl) hlist

end Grammar

end Script
end TextAdventure
