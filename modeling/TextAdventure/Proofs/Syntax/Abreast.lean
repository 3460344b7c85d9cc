/-
Readers that run abreast.

What a reader does next depends on the tokens that it took and on the next one,
never on where they stand or on what comes later.  So as far as the same tokens
are ahead of two cursors, it takes the same number of them at each, and is stuck
at the same one.  The values that are read need not be the same, since they say
where they were read; readers are alike if they agree in what they take.
-/
import TextAdventure.Proofs.Syntax.Deciding

namespace TextAdventure
namespace Script

namespace Cursor

/-- The cursor so many tokens further on, or at the end. -/
def skip (c : Cursor) : Nat → Cursor
  | 0 => c
  | k + 1 =>
    match c.ahead with
    | [] => c
    | t :: rest => skip ⟨t.span.stop, rest⟩ k

/-- Whether the same tokens are ahead, up to so many and the next one, if there
is one. -/
def SameTo (c c' : Cursor) (k : Nat) : Prop := c.values.take (k + 1) = c'.values.take (k + 1)

variable {c c' : Cursor} {j k : Nat}

theorem skip_of_ahead_eq_nil (h : c.ahead = []) (k : Nat) : c.skip k = c := by
  cases k with
  | zero => rfl
  | succ k => rw [skip, h]

theorem ahead_skip (c : Cursor) (k : Nat) : (c.skip k).ahead = c.ahead.drop k := by
  induction k generalizing c with
  | zero => rfl
  | succ k ih =>
    cases h : c.ahead with
    | nil => rw [skip_of_ahead_eq_nil h, h, List.drop_nil]
    | cons t rest => rw [skip, h, List.drop_succ_cons, ih]

theorem length_ahead_skip (c : Cursor) (k : Nat) :
    (c.skip k).ahead.length = c.ahead.length - k := by
  rw [ahead_skip, List.length_drop]

theorem values_skip (c : Cursor) (k : Nat) : (c.skip k).values = c.values.drop k := by
  rw [values, values, ahead_skip, List.map_drop]

theorem skip_skip (c : Cursor) (j k : Nat) : (c.skip j).skip k = c.skip (j + k) := by
  induction j generalizing c with
  | zero => rw [Nat.zero_add, skip]
  | succ j ih =>
    cases h : c.ahead with
    | nil =>
      rw [skip_of_ahead_eq_nil h, skip_of_ahead_eq_nil h, skip_of_ahead_eq_nil h]
    | cons t rest =>
      rw [Nat.add_right_comm, skip, skip, h]
      exact ih _

namespace SameTo

theorem of_values (h : c.values = c'.values) (k : Nat) : c.SameTo c' k :=
  congrArg (List.take (k + 1)) h

theorem mono (h : c.SameTo c' k) (hj : j ≤ k) : c.SameTo c' j := by
  have htake := congrArg (List.take (j + 1)) h
  rw [List.take_take, List.take_take, Nat.min_eq_left (Nat.succ_le_succ hj)] at htake
  exact htake

theorem skip (h : c.SameTo c' (j + k)) : (c.skip j).SameTo (c'.skip j) k := by
  have hdrop := congrArg (List.drop j) h
  rw [List.drop_take, List.drop_take, ← values_skip, ← values_skip, Nat.add_assoc,
    Nat.add_sub_cancel_left] at hdrop
  exact hdrop

/-- Either both cursors are at the end, or the next tokens of both are the same. -/
theorem cases (h : c.SameTo c' k) :
    (c.ahead = [] ∧ c'.ahead = []) ∨
    ∃ t rest t' rest', c.ahead = t :: rest ∧ c'.ahead = t' :: rest' ∧ t.node = t'.node := by
  have hhead : (c.ahead.map (·.node)).take 1 = (c'.ahead.map (·.node)).take 1 :=
    h.mono (Nat.zero_le k)
  cases hahead : c.ahead with
  | nil =>
    cases hahead' : c'.ahead with
    | nil => exact .inl ⟨rfl, rfl⟩
    | cons t' rest' =>
      rw [hahead, hahead'] at hhead
      exact absurd hhead.symm (List.cons_ne_nil _ _)
  | cons t rest =>
    cases hahead' : c'.ahead with
    | nil =>
      rw [hahead, hahead'] at hhead
      exact absurd hhead (List.cons_ne_nil _ _)
    | cons t' rest' =>
      rw [hahead, hahead'] at hhead
      exact .inr ⟨t, rest, t', rest', rfl, rfl, (List.cons.inj hhead).1⟩

theorem ahead_eq_nil (h : c.SameTo c' k) (hc : c.ahead = []) : c'.ahead = [] := by
  rcases h.cases with ⟨-, hc'⟩ | ⟨t, rest, _, _, hahead, -⟩
  · exact hc'
  · exact absurd (hahead.symm.trans hc) (List.cons_ne_nil t rest)

theorem exists_cons {t : Spanned Token} {rest : List (Spanned Token)} (h : c.SameTo c' k)
    (hc : c.ahead = t :: rest) : ∃ t' rest', c'.ahead = t' :: rest' ∧ t'.node = t.node := by
  rcases h.cases with ⟨hnil, -⟩ | ⟨_, _, t', rest', hahead, hahead', hnode⟩
  · exact absurd (hc.symm.trans hnil) (List.cons_ne_nil t rest)
  · obtain ⟨rfl, -⟩ := List.cons.inj (hahead.symm.trans hc)
    exact ⟨t', rest', hahead', hnode.symm⟩

theorem head?_eq (h : c.SameTo c' k) : c.values.head? = c'.values.head? := by
  have hhead := congrArg List.head? (h.mono (Nat.zero_le k))
  rwa [List.head?_take, List.head?_take] at hhead

end SameTo
end Cursor

namespace Reader

variable {α β ε : Type}

theorem bind_of_done {p : Reader α} {f : α → Reader β} {a : α} {c r : Cursor}
    (h : p c = .done a r) : (p >>= f) c = f a r := by
  show Reader.bind p f c = f a r
  rw [Reader.bind, h]

theorem bind_of_stuck {p : Reader α} {f : α → Reader β} {c r : Cursor} (h : p c = .stuck r) :
    (p >>= f) c = .stuck r := by
  show Reader.bind p f c = .stuck r
  rw [Reader.bind, h]

theorem spanned_of_done {p : Reader α} {a : α} {c r : Cursor} (h : p c = .done a r) :
    spanned p c = .done ⟨a, ⟨c.start, r.stop⟩⟩ r := by
  rw [spanned, h]

theorem spanned_of_stuck {p : Reader α} {c r : Cursor} (h : p c = .stuck r) :
    spanned p c = .stuck r := by
  rw [spanned, h]

theorem bind_cases (p : Reader α) (f : α → Reader β) (c : Cursor) :
    (∃ a r, p c = .done a r ∧ (p >>= f) c = f a r) ∨
    (∃ k, p c = .stuck k ∧ (p >>= f) c = .stuck k) := by
  cases h : p c with
  | done a r => exact .inl ⟨a, r, rfl, bind_of_done h⟩
  | stuck k => exact .inr ⟨k, rfl, bind_of_stuck h⟩

theorem spanned_cases (p : Reader α) (c : Cursor) :
    (∃ a r, p c = .done a r ∧ spanned p c = .done ⟨a, ⟨c.start, r.stop⟩⟩ r) ∨
    (∃ k, p c = .stuck k ∧ spanned p c = .stuck k) := by
  cases h : p c with
  | done a r => exact .inl ⟨a, r, rfl, spanned_of_done h⟩
  | stuck k => exact .inr ⟨k, rfl, spanned_of_stuck h⟩

/-- Whether two readers take as many tokens, each at its cursor, or are stuck
after as many. -/
def AbreastAt (p : Reader α) (q : Reader β) (c c' : Cursor) : Prop :=
  (∃ k a b, p c = .done a (c.skip k) ∧ q c' = .done b (c'.skip k)) ∨
  (∃ k, p c = .stuck (c.skip k) ∧ q c' = .stuck (c'.skip k))

/-- Whether two readers take as many tokens, or are stuck at the same one, where
the same tokens are ahead. -/
def Abreast (p : Reader α) (q : Reader β) : Prop :=
  ∀ c c' : Cursor, c.values = c'.values → AbreastAt p q c c'

/-- Whether the second reader does at its cursor what the first does, if the same
tokens are ahead up to the one at which the first has ended or is stuck. -/
def AlikeAt (p q : Reader α) (c c' : Cursor) : Prop :=
  ∃ k ≤ c.ahead.length,
    (∃ a, p c = .done a (c.skip k) ∧ (c.SameTo c' k → ∃ b, q c' = .done b (c'.skip k))) ∨
    (p c = .stuck (c.skip k) ∧ (c.SameTo c' k → q c' = .stuck (c'.skip k)))

/-- Whether two readers are alike wherever at most `m` tokens are ahead of the one
and `m'` of the other. -/
def Alike (m m' : Nat) (p q : Reader α) : Prop :=
  ∀ c c' : Cursor, c.ahead.length ≤ m → c'.ahead.length ≤ m' → AlikeAt p q c c'

/-- Whether a reader takes a token at least. -/
def Eats (p : Reader α) : Prop :=
  ∀ c a r, p c = .done a r → r.ahead.length < c.ahead.length

variable {p q : Reader α} {f g : α → Reader β} {c c' : Cursor}

theorem Eats.take (value : Token → Option α) : Eats (take value) := by
  rintro ⟨stop, ahead⟩ a r hdone
  cases ahead with
  | nil => exact absurd hdone nofun
  | cons t rest =>
    cases hread : value t.node with
    | none =>
      rw [take_of_none hread] at hdone
      exact absurd hdone nofun
    | some b =>
      rw [take_of_some hread] at hdone
      obtain ⟨-, rfl⟩ := Reply.done.inj hdone
      exact Nat.lt_succ_self rest.length

namespace AlikeAt

theorem congr {p' q' : Reader α} (h : AlikeAt p q c c') (hp : p' c = p c) (hq : q' c' = q c') :
    AlikeAt p' q' c c' := by
  rw [AlikeAt, hp, hq]
  exact h

/-- Both readers go on as others do, further on.  Where the tokens that were taken
differ, nothing is asked of the second. -/
theorem after {p' q' : Reader α} (j : Nat) (hj : j ≤ c.ahead.length)
    (hp : p c = p' (c.skip j)) (hq : c.SameTo c' j → q c' = q' (c'.skip j))
    (h : AlikeAt p' q' (c.skip j) (c'.skip j)) : AlikeAt p q c c' := by
  obtain ⟨k, hk, h⟩ := h
  rw [Cursor.length_ahead_skip] at hk
  rw [Cursor.skip_skip, Cursor.skip_skip] at h
  refine ⟨j + k, by omega, ?_⟩
  rcases h with ⟨a, hp', hq'⟩ | ⟨hp', hq'⟩
  · refine .inl ⟨a, hp.trans hp', fun hsame => ?_⟩
    obtain ⟨b, hb⟩ := hq' hsame.skip
    exact ⟨b, (hq (hsame.mono (Nat.le_add_right j k))).trans hb⟩
  · refine .inr ⟨hp.trans hp', fun hsame => ?_⟩
    exact (hq (hsame.mono (Nat.le_add_right j k))).trans (hq' hsame.skip)

theorem stuck (hp : p c = .stuck c) (hq : c.SameTo c' 0 → q c' = .stuck c') : AlikeAt p q c c' :=
  ⟨0, Nat.zero_le _, .inr ⟨hp, hq⟩⟩

theorem bind (h : AlikeAt p q c c')
    (hnext : ∀ k a b, p c = .done a (c.skip k) → AlikeAt (f a) (g b) (c.skip k) (c'.skip k)) :
    AlikeAt (p >>= f) (q >>= g) c c' := by
  obtain ⟨j, hj, ⟨a, hp, hq⟩ | ⟨hp, hq⟩⟩ := h
  · by_cases hsame : c.SameTo c' j
    · obtain ⟨b, hb⟩ := hq hsame
      exact .after j hj (bind_of_done hp) (fun _ => bind_of_done hb) (hnext j a b hp)
    · exact .after j hj (bind_of_done hp) (fun h => absurd h hsame) (hnext j a a hp)
  · exact ⟨j, hj, .inr ⟨bind_of_stuck hp, fun hsame => bind_of_stuck (hq hsame)⟩⟩

/-- What is seen of the next token is the same for both. -/
theorem look {seen : Reader ε} {f g : ε → Reader α} (value : Option Token → ε)
    (hseen : ∀ c, seen c = .done (value c.values.head?) c)
    (h : ∀ e, AlikeAt (f e) (g e) c c') : AlikeAt (seen >>= f) (seen >>= g) c c' := by
  refine .after 0 (Nat.zero_le _) (bind_of_done (hseen c)) ?_ (h _)
  intro hsame
  have hq := hseen c'
  rw [← hsame.head?_eq] at hq
  exact bind_of_done hq

theorem peek {f g : Option Token → Reader α} (h : ∀ t, AlikeAt (f t) (g t) c c') :
    AlikeAt (peek >>= f) (Reader.peek >>= g) c c' := by
  refine .look id ?_ h
  intro c
  rw [Reader.peek, Cursor.values, List.head?_map]
  rfl

end AlikeAt

variable {m m' : Nat}

namespace Alike

/-- Nothing depends on where the tokens stand. -/
theorem abreast (h : ∀ m m', Alike m m' p q) : Abreast p q := by
  intro c c' hvalues
  obtain ⟨k, -, ⟨a, hp, hq⟩ | ⟨hp, hq⟩⟩ := h _ _ c c' (Nat.le_refl _) (Nat.le_refl _)
  · obtain ⟨b, hq⟩ := hq (.of_values hvalues k)
    exact .inl ⟨k, a, b, hp, hq⟩
  · exact .inr ⟨k, hp, hq (.of_values hvalues k)⟩

theorem pure (a b : α) : Alike m m' (Reader.pure a) (Reader.pure b) :=
  fun _ _ _ _ => ⟨0, Nat.zero_le _, .inl ⟨a, rfl, fun _ => ⟨b, rfl⟩⟩⟩

theorem bind (h : Alike m m' p q) (hnext : ∀ a b, Alike m m' (f a) (g b)) :
    Alike m m' (p >>= f) (q >>= g) := by
  intro c c' hc hc'
  refine (h c c' hc hc').bind fun k a b _ => hnext a b _ _ ?_ ?_
  · rw [Cursor.length_ahead_skip]
    omega
  · rw [Cursor.length_ahead_skip]
    omega

theorem map (h : Alike m m' p q) (f g : α → β) : Alike m m' (f <$> p) (g <$> q) :=
  h.bind fun a b => .pure (f a) (g b)

theorem spanned (h : Alike m m' p q) : Alike m m' (spanned p) (spanned q) := by
  intro c c' hc hc'
  obtain ⟨k, hk, ⟨a, hp, hq⟩ | ⟨hp, hq⟩⟩ := h c c' hc hc'
  · refine ⟨k, hk, .inl ⟨_, spanned_of_done hp, fun hsame => ?_⟩⟩
    obtain ⟨b, hb⟩ := hq hsame
    exact ⟨_, spanned_of_done hb⟩
  · exact ⟨k, hk, .inr ⟨spanned_of_stuck hp, fun hsame => spanned_of_stuck (hq hsame)⟩⟩

/-! ## Tokens -/

theorem take (value : Token → Option α) :
    Alike m m' (Reader.take value) (Reader.take value) := by
  rintro ⟨stop, ahead⟩ ⟨stop', ahead'⟩ - -
  cases ahead with
  | nil =>
    refine .stuck rfl fun hsame => ?_
    obtain rfl : ahead' = [] := hsame.ahead_eq_nil rfl
    rfl
  | cons t rest =>
    cases hread : value t.node with
    | none =>
      refine .stuck (take_of_none hread) fun hsame => ?_
      obtain ⟨t', rest', rfl, hnode⟩ := hsame.exists_cons rfl
      exact take_of_none (hnode ▸ hread)
    | some a =>
      refine ⟨1, Nat.le_add_left 1 _, .inl ⟨a, take_of_some hread, fun hsame => ?_⟩⟩
      obtain ⟨t', rest', rfl, hnode⟩ := hsame.exists_cons rfl
      exact ⟨a, take_of_some (hnode ▸ hread)⟩

theorem expect (t : Token) : Alike m m' (Reader.expect t) (Reader.expect t) := .take _

/-- A token that is read leaves fewer of them ahead. -/
theorem skip (t : Token) (h : Alike m m' p q) :
    Alike (m + 1) (m' + 1) (Reader.expect t >>= fun _ => p) (Reader.expect t >>= fun _ => q) := by
  intro c c' hc hc'
  refine (Alike.expect t c c' hc hc').bind fun k _ _ hdone => ?_
  have hless := Eats.take _ c _ _ hdone
  rw [Cursor.length_ahead_skip] at hless
  refine h _ _ ?_ ?_
  · rw [Cursor.length_ahead_skip]
    omega
  · rw [Cursor.length_ahead_skip]
    omega

/-! ## Looking ahead -/

theorem peek {f g : Option Token → Reader α} (h : ∀ t, Alike m m' (f t) (g t)) :
    Alike m m' (peek >>= f) (Reader.peek >>= g) :=
  fun c c' hc hc' => .peek fun t => h t c c' hc hc'

theorem nextIs {t : Token} {f g : Bool → Reader α} (h : ∀ b, Alike m m' (f b) (g b)) :
    Alike m m' (nextIs t >>= f) (Reader.nextIs t >>= g) := by
  have hseen : ∀ c : Cursor, Reader.nextIs t c = .done (c.values.head?.any (· == t)) c := by
    intro c
    rw [Reader.nextIs, Cursor.values, List.head?_map]
    cases c.ahead <;> rfl
  exact fun c c' hc hc' => .look (·.any (· == t)) hseen fun b => h b c c' hc hc'

end Alike

/-! ## Lists -/

theorem manyUpTo_of_ahead_eq_nil (starts : Token → Bool) (p : Reader α) (n : Nat)
    (h : c.ahead = []) : manyUpTo starts p n c = .done [] c := by
  obtain ⟨stop, _⟩ := c
  obtain rfl := h
  cases n <;> rfl

/-- Once a part takes a token at least, the numbers of parts that are allowed do
not matter, as long as no tokens are left when they are used up. -/
theorem AlikeAt.manyUpTo (h : Alike m m' p q) (heats : Eats p) (starts : Token → Bool)
    {n n' : Nat} (hm : c.ahead.length ≤ m) (hm' : c'.ahead.length ≤ m')
    (hn : c.ahead.length ≤ n) (hn' : c'.ahead.length ≤ n') :
    AlikeAt (manyUpTo starts p n) (Reader.manyUpTo starts q n') c c' := by
  induction n generalizing n' c c' with
  | zero =>
    have hc : c.ahead = [] := List.length_eq_zero_iff.1 (Nat.le_zero.1 hn)
    refine ⟨0, Nat.zero_le _, .inl ⟨[], rfl, fun hsame => ⟨[], ?_⟩⟩⟩
    exact manyUpTo_of_ahead_eq_nil starts q n' (hsame.ahead_eq_nil hc)
  | succ n ih =>
    have hsucc : ∀ n', c'.ahead.length ≤ n' + 1 →
        AlikeAt (Reader.manyUpTo starts p (n + 1)) (Reader.manyUpTo starts q (n' + 1)) c c' := by
      intro n' hn'
      refine .peek fun t => ?_
      cases t with
      | none => exact Alike.pure [] [] c c' hm hm'
      | some t =>
        dsimp only
        split
        · refine (h c c' hm hm').bind fun k a b hdone => ?_
          have hless := heats c a _ hdone
          rw [Cursor.length_ahead_skip] at hless
          have hlength := Cursor.length_ahead_skip c k
          have hlength' := Cursor.length_ahead_skip c' k
          refine (ih (by omega) (by omega) (by omega) (by omega)).bind fun _ _ _ _ => ?_
          exact Alike.pure _ _ _ _ (Nat.le_refl _) (Nat.le_refl _)
        · exact Alike.pure [] [] c c' hm hm'
    cases n' with
    | zero =>
      have hc' : c'.ahead = [] := List.length_eq_zero_iff.1 (Nat.le_zero.1 hn')
      refine (hsucc 0 (Nat.le_succ_of_le hn')).congr rfl ?_
      rw [manyUpTo_of_ahead_eq_nil starts q 0 hc', manyUpTo_of_ahead_eq_nil starts q 1 hc']
    | succ n' => exact hsucc n' hn'

namespace Alike

theorem many (h : Alike m m' p q) (heats : Eats p) (starts : Token → Bool) :
    Alike m m' (many starts p) (Reader.many starts q) := by
  intro c c' hc hc'
  exact (AlikeAt.manyUpTo h heats starts hc hc' (Nat.le_refl _) (Nat.le_refl _)).congr rfl rfl

/-! ## Keywords -/

/-- The same keywords are continued by readers that are alike. -/
theorem choose {keywords keywords' : Keywords α}
    (h : ∀ w, Option.Rel (Alike m m') (keywords w) (keywords' w)) :
    Alike m m' (choose keywords) (Reader.choose keywords') := by
  intro c c' hc hc'
  obtain ⟨stop, ahead⟩ := c
  obtain ⟨stop', ahead'⟩ := c'
  cases ahead with
  | nil =>
    refine .stuck rfl fun hsame => ?_
    obtain rfl : ahead' = [] := hsame.ahead_eq_nil rfl
    rfl
  | cons t rest =>
    obtain ⟨node, span⟩ := t
    cases node with
    | word w =>
      have hrel := h w
      generalize hp : keywords w = continued, hq : keywords' w = continued' at hrel
      cases hrel with
      | none =>
        refine .stuck (choose_of_none fun _ hword => Token.word.inj hword ▸ hp) fun hsame => ?_
        obtain ⟨t', rest', rfl, hnode⟩ := hsame.exists_cons rfl
        exact choose_of_none fun _ hword => Token.word.inj (hnode.symm.trans hword) ▸ hq
      | some hnext =>
        refine .after 1 (Nat.le_add_left 1 _) (choose_of_some hp) ?_ (hnext _ _ ?_ ?_)
        · intro hsame
          obtain ⟨⟨_, _⟩, rest', rfl, rfl⟩ := hsame.exists_cons rfl
          exact choose_of_some hq
        · exact Nat.le_trans (Nat.le_succ _) hc
        · rw [Cursor.length_ahead_skip]
          omega
    | _ =>
      refine .stuck rfl fun hsame => ?_
      obtain ⟨⟨_, _⟩, rest', rfl, rfl⟩ := hsame.exists_cons rfl
      rfl

end Alike
end Reader

end Script
end TextAdventure
