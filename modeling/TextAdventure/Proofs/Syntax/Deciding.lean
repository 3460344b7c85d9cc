/-
Readers that decide what they read.

A reader decides a kind of phrase if it finds the one phrase that the next
tokens begin with, and is stuck only if they begin with none.  A phrase is
followed by tokens that cannot go on with it; how a longer phrase would begin
says nothing of a shorter one.  That a reader decides is shown for its parts, in
the order in which they are read.
-/
import Mathlib.Data.List.Forall2
import TextAdventure.Script.Reader

namespace TextAdventure
namespace Script

/-- The tokens ahead, without the places at which they stand. -/
def Cursor.values (c : Cursor) : List Token := c.ahead.map (·.node)

/-- Whether the next token, if there is one, is none of the given ones. -/
def Free (bad : Token → Bool) (ts : List Token) : Prop := ∀ t ∈ ts.head?, bad t = false

namespace Free

variable {bad worse : Token → Bool} {t : Token} {ts : List Token}

@[simp]
theorem nil : Free bad [] := nofun

@[simp]
theorem cons : Free bad (t :: ts) ↔ bad t = false := by
  simp [Free]

theorem mono (h : Free worse ts) (hbad : ∀ t, bad t = true → worse t = true) : Free bad ts := by
  intro t ht
  cases hb : bad t with
  | false => rfl
  | true => exact absurd (hbad t hb) (by rw [h t ht]; exact Bool.false_ne_true)

end Free

namespace Reader

variable {α β γ D E : Type}

/-- Whether a reader, at a cursor, finds the phrase that is next.  A phrase is
next if `ok` holds of what follows it; what is found may be followed by anything.
The value that is read and the phrase agree by `R`. -/
def DecidesAt (p : Reader α) (tokens : D → List Token) (ok : List Token → Prop)
    (R : α → D → Prop) (c : Cursor) : Prop :=
  (∃ a c' d, p c = .done a c' ∧ c.values = tokens d ++ c'.values ∧ R a d ∧
    ∀ d' r, c.values = tokens d' ++ r → ok r → d' = d ∧ r = c'.values) ∨
  (∃ k, p c = .stuck k ∧ ∀ d r, c.values = tokens d ++ r → ¬ ok r)

/-- Whether a reader finds the phrase that is next wherever at most `n` tokens
are ahead. -/
def Decides (n : Nat) (p : Reader α) (tokens : D → List Token) (ok : List Token → Prop)
    (R : α → D → Prop) : Prop :=
  ∀ c : Cursor, c.ahead.length ≤ n → DecidesAt p tokens ok R c

variable {n : Nat} {p : Reader α} {tokens : D → List Token} {ok : List Token → Prop}
  {R : α → D → Prop} {c c' : Cursor}

theorem length_values (c : Cursor) : c.values.length = c.ahead.length := List.length_map _

theorem length_le_of_values {ts : List Token} (h : c.values = ts ++ c'.values) :
    c'.ahead.length ≤ c.ahead.length := by
  have hlength := congrArg List.length h
  rw [List.length_append, length_values, length_values] at hlength
  omega

theorem length_lt_of_values {t : Token} (h : c.values = t :: c'.values) :
    c'.ahead.length < c.ahead.length := by
  have hlength := congrArg List.length h
  rw [List.length_cons, length_values, length_values] at hlength
  omega

/-! ## Values -/

theorem DecidesAt.imp {R' : α → D → Prop} (h : DecidesAt p tokens ok R c)
    (hR : ∀ a d, R a d → R' a d) : DecidesAt p tokens ok R' c := by
  rcases h with ⟨a, c', d, hdone, hvalues, ha, honly⟩ | hstuck
  · exact .inl ⟨a, c', d, hdone, hvalues, hR a d ha, honly⟩
  · exact .inr hstuck

theorem DecidesAt.restrict {ok' : List Token → Prop} (h : DecidesAt p tokens ok R c)
    (hok : ∀ r, ok' r → ok r) : DecidesAt p tokens ok' R c := by
  rcases h with ⟨a, c', d, hdone, hvalues, ha, honly⟩ | ⟨k, hstuck, hnone⟩
  · exact .inl ⟨a, c', d, hdone, hvalues, ha, fun d' r hr hr' => honly d' r hr (hok r hr')⟩
  · exact .inr ⟨k, hstuck, fun d r hr hr' => hnone d r hr (hok r hr')⟩

/-- What is read is turned into something else. -/
theorem DecidesAt.result {R' : β → D → Prop} {f : α → Reader β} (h : DecidesAt p tokens ok R c)
    (hf : ∀ a d, R a d → ∃ b, f a = Reader.pure b ∧ R' b d) :
    DecidesAt (p >>= f) tokens ok R' c := by
  show DecidesAt (Reader.bind p f) tokens ok R' c
  rcases h with ⟨a, c', d, hdone, hvalues, ha, honly⟩ | ⟨k, hstuck, hnone⟩
  · obtain ⟨b, hb, hR⟩ := hf a d ha
    refine .inl ⟨b, c', d, ?_, hvalues, hR, honly⟩
    rw [Reader.bind, hdone]
    exact congrFun hb c'
  · refine .inr ⟨k, ?_, hnone⟩
    rw [Reader.bind, hstuck]

theorem DecidesAt.map {R' : β → D → Prop} {f : α → β}
    (h : DecidesAt p tokens ok (fun a d => R' (f a) d) c) : DecidesAt (f <$> p) tokens ok R' c :=
  h.result fun a _ ha => ⟨f a, rfl, ha⟩

theorem DecidesAt.spanned {R' : Spanned α → D → Prop}
    (h : DecidesAt p tokens ok (fun a d => ∀ span, R' ⟨a, span⟩ d) c) :
    DecidesAt (spanned p) tokens ok R' c := by
  rcases h with ⟨a, c', d, hdone, hvalues, ha, honly⟩ | ⟨k, hstuck, hnone⟩
  · refine .inl ⟨⟨a, ⟨c.start, c'.stop⟩⟩, c', d, ?_, hvalues, ha _, honly⟩
    rw [Reader.spanned, hdone]
  · refine .inr ⟨k, ?_, hnone⟩
    rw [Reader.spanned, hstuck]

theorem DecidesAt.node (h : DecidesAt p tokens ok R c) :
    DecidesAt (Reader.spanned p) tokens ok (fun a d => R a.node d) c :=
  .spanned (h.imp fun _ _ ha _ => ha)

/-- What is known to be next is of a narrower kind. -/
theorem DecidesAt.narrow {tokens' : E → List Token} {R' : α → E → Prop} {g : D → E}
    (h : DecidesAt p tokens ok (fun a d => R' a (g d)) c)
    (hg : ∀ e r, c.values = tokens' e ++ r → ok r → ∃ d, e = g d)
    (htokens : ∀ d, tokens' (g d) = tokens d) : DecidesAt p tokens' ok R' c := by
  rcases h with ⟨a, c', d, hdone, hvalues, ha, honly⟩ | ⟨k, hstuck, hnone⟩
  · refine .inl ⟨a, c', g d, hdone, (htokens d).symm ▸ hvalues, ha, fun e r hr hr' => ?_⟩
    obtain ⟨d', rfl⟩ := hg e r hr hr'
    rw [htokens] at hr
    obtain ⟨rfl, hrest⟩ := honly d' r hr hr'
    exact ⟨rfl, hrest⟩
  · refine .inr ⟨k, hstuck, fun e r hr hr' => ?_⟩
    obtain ⟨d, rfl⟩ := hg e r hr hr'
    rw [htokens] at hr
    exact hnone d r hr hr'

/-- Phrases that are the same in another form. -/
theorem DecidesAt.rename {tokens' : E → List Token} {R' : α → E → Prop}
    (h : DecidesAt p tokens ok R c) (g : D → E) (f : E → D) (hgf : ∀ e, g (f e) = e)
    (htokens : ∀ d, tokens' (g d) = tokens d) (hR : ∀ a d, R a d → R' a (g d)) :
    DecidesAt p tokens' ok R' c :=
  (h.imp hR).narrow (fun e _ _ _ => ⟨f e, (hgf e).symm⟩) htokens

theorem DecidesAt.congr {q : Reader α} (h : DecidesAt p tokens ok R c) (hq : q c = p c) :
    DecidesAt q tokens ok R c := by
  rw [DecidesAt, hq]
  exact h

/-! ## One part after the other -/

/-- The tokens of two parts. -/
def both (tokens : D → List Token) (tokens₂ : E → List Token) (x : D × E) : List Token :=
  tokens x.1 ++ tokens₂ x.2

/-- Nothing is read of a phrase without tokens. -/
theorem DecidesAt.pure {a : α} {d : D} (ha : R a d)
    (honly : ∀ d' r, c.values = tokens d' ++ r → ok r → d' = d) (h : tokens d = []) :
    DecidesAt (Reader.pure a) tokens ok R c := by
  refine .inl ⟨a, c, d, rfl, by rw [h, List.nil_append], ha, fun d' r hr hr' => ?_⟩
  obtain rfl := honly d' r hr hr'
  rw [h, List.nil_append] at hr
  exact ⟨rfl, hr.symm⟩

theorem DecidesAt.nothing {a : α} {R : α → Unit → Prop} (ha : R a ()) :
    DecidesAt (Reader.pure a) (fun _ => []) ok R c :=
  .pure ha (fun _ _ _ _ => rfl) rfl

theorem DecidesAt.bind {f : α → Reader β} {tokens₂ : E → List Token} {okp : List Token → Prop}
    {R' : β → D × E → Prop} (hp : DecidesAt p tokens okp R c)
    (hf : ∀ a d c', R a d → c.values = tokens d ++ c'.values →
      DecidesAt (f a) tokens₂ ok (fun b e => R' b (d, e)) c')
    (hok : ∀ e r, ok r → okp (tokens₂ e ++ r)) :
    DecidesAt (p >>= f) (both tokens tokens₂) ok R' c := by
  show DecidesAt (Reader.bind p f) _ ok R' c
  rcases hp with ⟨a, c', d, hdone, hvalues, ha, honly⟩ | ⟨k, hstuck, hnone⟩
  · have hrun : Reader.bind p f c = f a c' := by rw [Reader.bind, hdone]
    -- whatever is next begins with `d`, since the second part can follow it
    have hfirst : ∀ x : D × E, ∀ r, c.values = both tokens tokens₂ x ++ r → ok r →
        x.1 = d ∧ tokens₂ x.2 ++ r = c'.values := by
      intro x r hr hr'
      exact honly x.1 _ (hr.trans (List.append_assoc _ _ _)) (hok x.2 r hr')
    rcases hf a d c' ha hvalues with ⟨b, c'', e, hdone', hvalues', hb, honly'⟩ |
      ⟨k, hstuck, hnone⟩
    · refine .inl ⟨b, c'', (d, e), hrun.trans hdone', ?_, hb, fun x r hr hr' => ?_⟩
      · rw [hvalues, hvalues', both, List.append_assoc]
      · obtain ⟨hd, hrest⟩ := hfirst x r hr hr'
        obtain ⟨he, hr⟩ := honly' x.2 r hrest.symm hr'
        exact ⟨Prod.ext hd he, hr⟩
    · refine .inr ⟨k, hrun.trans hstuck, fun x r hr hr' => ?_⟩
      obtain ⟨-, hrest⟩ := hfirst x r hr hr'
      exact hnone x.2 r hrest.symm hr'
  · refine .inr ⟨k, ?_, fun x r hr hr' => ?_⟩
    · rw [Reader.bind, hstuck]
    · exact hnone x.1 _ (hr.trans (List.append_assoc _ _ _)) (hok x.2 r hr')

/-- The first part may be followed by anything. -/
theorem DecidesAt.seq {f : α → Reader β} {tokens₂ : E → List Token} {R' : β → D × E → Prop}
    (hp : DecidesAt p tokens (fun _ => True) R c)
    (hf : ∀ a d c', R a d → c.values = tokens d ++ c'.values →
      DecidesAt (f a) tokens₂ ok (fun b e => R' b (d, e)) c') :
    DecidesAt (p >>= f) (both tokens tokens₂) ok R' c :=
  hp.bind hf fun _ _ _ => trivial

/-! ## Tokens -/

theorem take_of_some {value : Token → Option α} {a : α} {stop : Nat} {t : Spanned Token}
    {rest : List (Spanned Token)} (h : value t.node = some a) :
    take value ⟨stop, t :: rest⟩ = .done a ⟨t.span.stop, rest⟩ := by
  rw [take]
  dsimp only
  rw [h]

theorem take_of_none {value : Token → Option α} {stop : Nat} {t : Spanned Token}
    {rest : List (Spanned Token)} (h : value t.node = none) :
    take value ⟨stop, t :: rest⟩ = .stuck ⟨stop, t :: rest⟩ := by
  rw [take]
  dsimp only
  rw [h]

theorem DecidesAt.take {value : Token → Option α} {token : D → Token}
    (hvalue : ∀ t a, value t = some a → ∃ d, token d = t ∧ R a d)
    (hnone : ∀ d, value (token d) ≠ none) (hinj : ∀ d d', token d = token d' → d = d') :
    DecidesAt (take value) (fun d => [token d]) ok R c := by
  obtain ⟨stop, ahead⟩ := c
  cases ahead with
  | nil => exact .inr ⟨_, rfl, fun d r hr _ => absurd hr (List.cons_ne_nil _ _).symm⟩
  | cons t rest =>
    cases hread : value t.node with
    | none =>
      refine .inr ⟨_, take_of_none hread, fun d r hr _ => ?_⟩
      have hnode : t.node = token d := (List.cons.inj hr).1
      rw [hnode] at hread
      exact hnone d hread
    | some a =>
      obtain ⟨d, hd, ha⟩ := hvalue _ _ hread
      refine .inl ⟨a, ⟨t.span.stop, rest⟩, d, take_of_some hread, ?_, ha, fun d' r hr _ => ?_⟩
      · show t.node :: _ = token d :: _
        rw [hd]
        rfl
      · obtain ⟨hd', hrest⟩ := List.cons.inj hr
        exact ⟨hinj d' d (hd'.symm.trans hd.symm), hrest.symm⟩

theorem DecidesAt.expect {t : Token} {R : Unit → Unit → Prop} (hR : R () ()) :
    DecidesAt (expect t) (fun _ => [t]) ok R c := by
  refine .take (fun t' a h => ?_) (fun _ => ?_) (fun _ _ _ => rfl)
  · by_cases ht : t' = t
    · exact ⟨(), ht.symm, hR⟩
    · rw [if_neg ht] at h
      exact absurd h nofun
  · rw [if_pos rfl]
    exact Option.some_ne_none ()

/-- A token that is always there is read and says nothing. -/
theorem DecidesAt.skip {t : Token}
    (h : ∀ c', c.values = t :: c'.values → DecidesAt p tokens ok R c') :
    DecidesAt (Reader.expect t >>= fun _ => p) (fun d => t :: tokens d) ok R c := by
  have hfirst : DecidesAt (Reader.expect t) (fun _ : Unit => [t]) (fun _ => True)
      (fun _ _ => True) c := .expect trivial
  have hboth : DecidesAt (Reader.expect t >>= fun _ => p) (both (fun _ : Unit => [t]) tokens) ok
      (fun a x => R a x.2) c :=
    hfirst.seq fun _ _ c' _ hread => h c' hread
  exact hboth.rename (fun x => x.2) (fun d => ((), d)) (fun _ => rfl) (fun _ => rfl) fun _ _ => id

/-- A token that makes out the whole phrase. -/
theorem DecidesAt.sole {t : Token} {a : α} (d : D) (htokens : tokens d = [t]) (ha : R a d)
    (honly : ∀ d' r, c.values = tokens d' ++ r → ok r → d' = d) :
    DecidesAt (Reader.expect t >>= fun _ => Pure.pure a) tokens ok R c := by
  have hread : DecidesAt (Reader.expect t >>= fun _ => Pure.pure a) (fun _ : Unit => [t]) ok
      (fun a _ => R a d) c := .skip fun _ _ => .nothing ha
  refine hread.narrow (g := fun _ => d) ?_ fun _ => htokens
  intro d' r hr hr'
  exact ⟨(), honly d' r hr hr'⟩

/-- A token that always follows is read and says nothing. -/
theorem DecidesAt.close {t : Token} {f : α → β} {okp : List Token → Prop} {R' : β → D → Prop}
    (hp : DecidesAt p tokens okp (fun a d => R' (f a) d) c) (hok : ∀ r, okp (t :: r)) :
    DecidesAt (p >>= fun a => Reader.expect t >>= fun _ => Reader.pure (f a))
      (fun d => tokens d ++ [t]) ok R' c := by
  have hboth : DecidesAt (p >>= fun a => Reader.expect t >>= fun _ => Reader.pure (f a))
      (both tokens fun _ : Unit => [t]) ok (fun b x => R' b x.1) c :=
    hp.bind (fun a d c' ha _ => .skip fun _ _ => .nothing ha) fun _ r _ => hok r
  exact hboth.rename (fun x => x.1) (fun d => (d, ())) (fun _ => rfl) (fun _ => rfl) fun _ _ => id

/-! ## Looking ahead -/

theorem DecidesAt.look {q : Reader β} {b : β} {f : β → Reader α} (hq : q c = .done b c)
    (h : DecidesAt (f b) tokens ok R c) : DecidesAt (q >>= f) tokens ok R c := by
  refine h.congr ?_
  show Reader.bind q f c = f b c
  rw [Reader.bind, hq]

theorem DecidesAt.peek {f : Option Token → Reader α}
    (h : DecidesAt (f c.values.head?) tokens ok R c) : DecidesAt (peek >>= f) tokens ok R c := by
  refine .look ?_ h
  rw [Reader.peek, Cursor.values, List.head?_map]

theorem DecidesAt.nextIs {f : Bool → Reader α} {t : Token}
    (htrue : c.values.head? = some t → DecidesAt (f true) tokens ok R c)
    (hfalse : c.values.head? ≠ some t → DecidesAt (f false) tokens ok R c) :
    DecidesAt (nextIs t >>= f) tokens ok R c := by
  have hnext : Reader.nextIs t c = .done (decide (c.values.head? = some t)) c := by
    rw [Reader.nextIs, Cursor.values, List.head?_map]
    cases c.ahead.head? with
    | none => rfl
    | some next =>
      rw [Option.map_some, Option.any_some]
      simp only [Option.some.injEq]
      rfl
  by_cases h : c.values.head? = some t
  · rw [decide_eq_true h] at hnext
    exact .look hnext (htrue h)
  · rw [decide_eq_false h] at hnext
    exact .look hnext (hfalse h)

/-! ## Keywords -/

/-- Whether a reader decides the phrases that begin with a keyword, once that
has been read. -/
inductive Continues (n : Nat) (q : Reader α) (tokens : E → List Token) (w : String)
    (ok : List Token → Prop) (R : α → E → Prop) : Prop where
  | intro {D : Type} (after : D → List Token) (g : D → E)
    (hg : ∀ e ts, tokens e = .word w :: ts → ∃ d, e = g d)
    (htokens : ∀ d, tokens (g d) = .word w :: after d)
    (h : Decides n q after ok fun a d => R a (g d))

/-- Nothing follows the keyword. -/
theorem Continues.alone {tokens : E → List Token} {R : α → E → Prop} {w : String} {a : α} (e : E)
    (he : ∀ e' ts, tokens e' = .word w :: ts → e' = e) (htokens : tokens e = [.word w])
    (ha : R a e) : Continues n (Pure.pure a) tokens w ok R :=
  .intro (fun _ : Unit => []) (fun _ => e) (fun e' ts h => ⟨(), he e' ts h⟩) (fun _ => htokens)
    fun _ _ => .nothing ha

/-- One part follows the keyword. -/
theorem Continues.one {tokens' : E → List Token} {R' : β → E → Prop} {w : String} {f : α → β}
    (g : D → E) (hp : ∀ c, DecidesAt p tokens ok R c)
    (hg : ∀ e ts, tokens' e = .word w :: ts → ∃ d, e = g d)
    (htokens : ∀ d, tokens' (g d) = .word w :: tokens d) (hR : ∀ a d, R a d → R' (f a) (g d)) :
    Continues n (f <$> p) tokens' w ok R' :=
  .intro tokens g hg htokens fun c _ => .map ((hp c).imp hR)

/-- The phrases that begin with a keyword. -/
def After (tokens : E → List Token) (w : String) : Type :=
  { e : E // ∃ ts, tokens e = .word w :: ts }

namespace After

variable {tokens : E → List Token} {w : String}

def rest (x : After tokens w) : List Token := (tokens x.1).tail

theorem word_cons_rest (x : After tokens w) : tokens x.1 = .word w :: x.rest := by
  obtain ⟨ts, he⟩ := x.2
  rw [rest, he, List.tail_cons]

end After

/-- Another keyword follows, and tells which phrase it is. -/
theorem Continues.deeper {q : Reader α} {tokens : E → List Token} {R : α → E → Prop} {w : String}
    (h : Decides n q (fun x : After tokens w => x.rest) ok fun a x => R a x.1) :
    Continues n q tokens w ok R :=
  .intro After.rest Subtype.val (fun e ts he => ⟨⟨e, ts, he⟩, rfl⟩) After.word_cons_rest h

theorem choose_of_some {keywords : Keywords α} {w : String} {q : Reader α} {stop : Nat}
    {span : Span} {rest : List (Spanned Token)} (h : keywords w = some q) :
    choose keywords ⟨stop, ⟨.word w, span⟩ :: rest⟩ = q ⟨span.stop, rest⟩ := by
  simp only [choose, Bind.bind, Reader.bind, take, h]

theorem choose_of_none {keywords : Keywords α} {stop : Nat} {t : Spanned Token}
    {rest : List (Spanned Token)} (h : ∀ w, t.node = .word w → keywords w = none) :
    choose keywords ⟨stop, t :: rest⟩ = .stuck ⟨stop, t :: rest⟩ := by
  obtain ⟨node, span⟩ := t
  cases node with
  | word w => simp only [choose, Bind.bind, Reader.bind, take, h w rfl]
  | _ => rfl

variable {keywords : Keywords α}

theorem DecidesAt.choose_keyword {w : String} {q : Reader α} {stop : Nat} {span : Span}
    {rest : List (Spanned Token)} (hq : keywords w = some q) (h : Continues n q tokens w ok R)
    (hkeyword : ∀ d, ∃ w ts, tokens d = .word w :: ts ∧ (keywords w).isSome = true)
    (hlength : rest.length ≤ n) :
    DecidesAt (choose keywords) tokens ok R ⟨stop, ⟨.word w, span⟩ :: rest⟩ := by
  obtain ⟨after, g, hg, htokens, hdecides⟩ := h
  -- what follows the keyword follows it in every phrase that is next
  have hafter : ∀ e r, (⟨stop, ⟨.word w, span⟩ :: rest⟩ : Cursor).values = tokens e ++ r →
      ∃ d, e = g d ∧ (⟨span.stop, rest⟩ : Cursor).values = after d ++ r := by
    intro e r hr
    obtain ⟨w', ts, he, -⟩ := hkeyword e
    rw [he] at hr
    obtain ⟨hword, hrest⟩ := List.cons.inj hr
    obtain rfl := Token.word.inj hword
    obtain ⟨d, rfl⟩ := hg e ts he
    rw [htokens] at he
    exact ⟨d, rfl, (List.cons.inj he).2 ▸ hrest⟩
  rcases hdecides ⟨span.stop, rest⟩ hlength with ⟨a, c', d, hdone, hread, ha, honly⟩ |
    ⟨k, hk, hnone⟩
  · refine .inl ⟨a, c', g d, (choose_of_some hq).trans hdone, ?_, ha, ?_⟩
    · rw [htokens, List.cons_append, ← hread]
      rfl
    · intro e r hr hr'
      obtain ⟨d', rfl, hrest⟩ := hafter e r hr
      obtain ⟨rfl, hr⟩ := honly d' r hrest hr'
      exact ⟨rfl, hr⟩
  · refine .inr ⟨k, (choose_of_some hq).trans hk, ?_⟩
    intro e r hr hr'
    obtain ⟨d, rfl, hrest⟩ := hafter e r hr
    exact hnone d r hrest hr'

theorem Decides.choose
    (hkeyword : ∀ d, ∃ w ts, tokens d = .word w :: ts ∧ (keywords w).isSome = true)
    (h : ∀ w q, keywords w = some q → Continues n q tokens w ok R) :
    Decides n (choose keywords) tokens ok R := by
  rintro ⟨stop, ahead⟩ hlength
  cases ahead with
  | nil =>
    refine .inr ⟨⟨stop, []⟩, rfl, ?_⟩
    intro d r hr _
    obtain ⟨w, ts, hd, -⟩ := hkeyword d
    rw [hd] at hr
    exact absurd hr (List.cons_ne_nil _ _).symm
  | cons t rest =>
    obtain ⟨node, span⟩ := t
    by_cases hw : ∃ w q, node = .word w ∧ keywords w = some q
    · obtain ⟨w, q, rfl, hq⟩ := hw
      exact .choose_keyword hq (h w q hq) hkeyword (Nat.le_of_succ_le hlength)
    · refine .inr ⟨_, choose_of_none ?_, ?_⟩
      · intro w hnode
        cases hq : keywords w with
        | none => rfl
        | some q => exact absurd ⟨w, q, hnode, hq⟩ hw
      · intro d r hr _
        obtain ⟨w, ts, hd, hsome⟩ := hkeyword d
        rw [hd] at hr
        obtain ⟨q, hq⟩ := Option.isSome_iff_exists.1 hsome
        exact hw ⟨w, q, (List.cons.inj hr).1, hq⟩

/-! ## Repetition -/

section

variable {starts : Token → Bool} {okp : List Token → Prop}

/-- Of phrases that begin with tokens of a kind, none is next unless a token of
that kind is. -/
theorem eq_nil_of_free (hstarts : ∀ d, ∃ t ts, tokens d = t :: ts ∧ starts t = true)
    {ds : List D} {r : List Token} (h : Free starts (ds.flatMap tokens ++ r)) : ds = [] := by
  cases ds with
  | nil => rfl
  | cons d others =>
    obtain ⟨t, ts, hd, ht⟩ := hstarts d
    rw [List.flatMap_cons, hd, List.cons_append, List.cons_append, Free.cons, ht] at h
    exact absurd h.symm Bool.false_ne_true

theorem DecidesAt.none_of_free {p : Reader (List α)} {R : α → D → Prop}
    (hstarts : ∀ d, ∃ t ts, tokens d = t :: ts ∧ starts t = true) (h : Free starts c.values)
    (hp : p c = .done [] c) :
    DecidesAt p (fun ds => ds.flatMap tokens) ok (List.Forall₂ R) c := by
  have hpure : DecidesAt (Reader.pure []) (fun ds : List D => ds.flatMap tokens) ok
      (List.Forall₂ R) c := by
    refine .pure .nil (fun ds r hr _ => ?_) rfl
    rw [hr] at h
    exact eq_nil_of_free hstarts h
  exact hpure.congr hp

/-- What may follow one part is followed by any number of others. -/
theorem ok_flatMap {r : List Token} (hnext : ∀ d r, okp (tokens d ++ r)) (hr : okp r)
    (ds : List D) : okp (ds.flatMap tokens ++ r) := by
  cases ds with
  | nil => exact hr
  | cons d ds =>
    rw [List.flatMap_cons, List.append_assoc]
    exact hnext d _

/-- A part, and then all the others of a kind. -/
theorem DecidesAt.andMany {q : Reader (List β)} {f : α → List β → γ} {tokens₂ : E → List Token}
    {S : List β → List E → Prop} {R' : γ → D × List E → Prop} (hp : DecidesAt p tokens okp R c)
    (hq : ∀ d c', c.values = tokens d ++ c'.values →
      DecidesAt q (fun es => es.flatMap tokens₂) ok S c')
    (hnext : ∀ e r, okp (tokens₂ e ++ r)) (hok : ∀ r, ok r → okp r)
    (hR : ∀ a d bs es, R a d → S bs es → R' (f a bs) (d, es)) :
    DecidesAt (p >>= fun a => q >>= fun bs => Pure.pure (f a bs))
      (both tokens fun es => es.flatMap tokens₂) ok R' c := by
  refine hp.bind ?_ ?_
  · intro a d c' ha hread
    refine (hq d c' hread).result ?_
    intro bs es hbs
    exact ⟨f a bs, rfl, hR a d bs es ha hbs⟩
  · intro es r hr
    exact ok_flatMap hnext (hok r hr) es

/-- A part that is next, and all that come after it. -/
theorem DecidesAt.oneMore {q : Reader (List α)} {t : Token} {ts : List Token}
    (hp : DecidesAt p tokens okp R c)
    (hstarts : ∀ d, ∃ t ts, tokens d = t :: ts ∧ starts t = true)
    (hnext : ∀ d r, okp (tokens d ++ r)) (hok : ∀ r, ok r → okp r ∧ Free starts r)
    (hvalues : c.values = t :: ts) (ht : starts t = true)
    (hq : ∀ c', c'.ahead.length < c.ahead.length →
      DecidesAt q (fun ds => ds.flatMap tokens) ok (List.Forall₂ R) c') :
    DecidesAt (p >>= fun a => q >>= fun as => Pure.pure (a :: as)) (fun ds => ds.flatMap tokens) ok
      (List.Forall₂ R) c := by
  have hothers : ∀ d c', c.values = tokens d ++ c'.values →
      DecidesAt q (fun ds => ds.flatMap tokens) ok (List.Forall₂ R) c' := by
    intro d c' hread
    obtain ⟨t', ts', hd, -⟩ := hstarts d
    rw [hd] at hread
    have hlength := congrArg List.length hread
    rw [List.length_append, length_values, length_values, List.length_cons] at hlength
    exact hq c' (by omega)
  have hboth : DecidesAt (p >>= fun a => q >>= fun as => Pure.pure (a :: as))
      (both tokens fun ds => ds.flatMap tokens) ok
      (fun as x => List.Forall₂ R as (x.1 :: x.2)) c :=
    hp.andMany hothers hnext (fun r hr => (hok r hr).1) fun a d as ds => .cons
  refine hboth.narrow (g := fun x : D × List D => x.1 :: x.2) ?_ ?_
  · intro ds r hr hr'
    cases ds with
    | nil =>
      have hfree := (hok r hr').2
      rw [List.flatMap_nil, List.nil_append, hvalues] at hr
      rw [← hr, Free.cons, ht] at hfree
      exact absurd hfree.symm Bool.false_ne_true
    | cons d ds => exact ⟨(d, ds), rfl⟩
  · intro x
    exact List.flatMap_cons

/-- Of phrases that begin with tokens of a kind, those that are next come one
after the other as long as such a token does. -/
theorem DecidesAt.manyUpTo (hstarts : ∀ d, ∃ t ts, tokens d = t :: ts ∧ starts t = true)
    (hnext : ∀ d r, okp (tokens d ++ r)) (hok : ∀ r, ok r → okp r ∧ Free starts r) (fuel : Nat)
    (c : Cursor) (hfuel : c.ahead.length ≤ fuel) (hp : Decides c.ahead.length p tokens okp R) :
    DecidesAt (manyUpTo starts p fuel) (fun ds => ds.flatMap tokens) ok (List.Forall₂ R) c := by
  induction fuel generalizing c with
  | zero =>
    obtain ⟨stop, ahead⟩ := c
    obtain rfl : ahead = [] := List.length_eq_zero_iff.1 (Nat.le_zero.1 hfuel)
    exact .none_of_free hstarts .nil rfl
  | succ fuel ih =>
    rw [Reader.manyUpTo]
    refine .peek ?_
    cases hvalues : c.values with
    | nil =>
      have hfree : Free starts c.values := by rw [hvalues]; exact .nil
      exact .none_of_free hstarts hfree rfl
    | cons t ts =>
      by_cases ht : starts t = true
      · have hothers : ∀ c', c'.ahead.length < c.ahead.length →
            DecidesAt (Reader.manyUpTo starts p fuel) (fun ds => ds.flatMap tokens) ok
              (List.Forall₂ R) c' := by
          intro c' hshorter
          refine ih c' (by omega) ?_
          intro c'' hc''
          exact hp c'' (by omega)
        show DecidesAt (if starts t then _ else _) _ _ _ _
        rw [if_pos ht]
        exact (hp c (Nat.le_refl _)).oneMore hstarts hnext hok hvalues ht hothers
      · have hfree : Free starts c.values := by
          rw [hvalues, Free.cons]
          exact Bool.eq_false_iff.2 ht
        show DecidesAt (if starts t then _ else _) _ _ _ _
        rw [if_neg ht]
        exact .none_of_free hstarts hfree rfl

theorem DecidesAt.many (hp : Decides c.ahead.length p tokens okp R)
    (hstarts : ∀ d, ∃ t ts, tokens d = t :: ts ∧ starts t = true)
    (hnext : ∀ d r, okp (tokens d ++ r)) (hok : ∀ r, ok r → okp r ∧ Free starts r) :
    DecidesAt (many starts p) (fun ds => ds.flatMap tokens) ok (List.Forall₂ R) c := by
  have hread := DecidesAt.manyUpTo hstarts hnext hok c.ahead.length c (Nat.le_refl _) hp
  exact hread.congr rfl

/-- Parts of which each begins with a keyword. -/
theorem DecidesAt.manyChosen {keywords : Keywords α}
    (hp : Decides c.ahead.length (Reader.choose keywords) tokens okp R)
    (hkeyword : ∀ d, ∃ w ts, tokens d = .word w :: ts ∧ (keywords w).isSome = true)
    (hnext : ∀ d r, okp (tokens d ++ r)) (hok : ∀ r, ok r → okp r ∧ Free keywords.starts r) :
    DecidesAt (Reader.many keywords.starts (Reader.spanned (Reader.choose keywords)))
      (fun ds => ds.flatMap tokens) ok (List.Forall₂ fun a d => R a.node d) c := by
  refine .many (fun c' hc' => (hp c' hc').node) (fun d => ?_) hnext hok
  obtain ⟨w, ts, hd, hw⟩ := hkeyword d
  exact ⟨.word w, ts, hd, hw⟩

/-- Parts with a token before each. -/
theorem DecidesAt.others {t : Token} (hp : Decides n p tokens okp R) (hc : c.ahead.length ≤ n)
    (hnext : ∀ ts, okp (t :: ts)) (hok : ∀ r, ok r → okp r ∧ Free (· == t) r) :
    DecidesAt (Reader.many (· == t) (Reader.expect t >>= fun _ => p))
      (fun ds => ds.flatMap fun d => t :: tokens d) ok (List.Forall₂ R) c := by
  have hpart : Decides c.ahead.length (Reader.expect t >>= fun _ => p) (fun d => t :: tokens d)
      okp R := by
    refine fun c' hc' => .skip fun c'' hread => hp c'' ?_
    have hshorter := length_lt_of_values hread
    omega
  exact .many hpart (fun d => ⟨t, tokens d, rfl, beq_self_eq_true t⟩) (fun _ _ => hnext _) hok

end

end Reader

end Script
end TextAdventure
