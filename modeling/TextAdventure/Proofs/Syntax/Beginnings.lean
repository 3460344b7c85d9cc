/-
Readers that begin what they cannot end.

A reader that is stuck has read the beginning of a phrase: some parts to their
ends, and the beginning of another.  Since there are phrases of every kind, that
one can be completed and the parts that are missing can follow.  Nothing is asked
of what comes after a phrase, so it does not matter here how a reader chooses
between two ways to go on.
-/
import TextAdventure.Proofs.Syntax.Abreast

namespace TextAdventure
namespace Script

namespace Reader

variable {α β ε D E : Type}

/-- Whether a reader reads phrases of a kind, and has read the beginning of one
where it is stuck. -/
structure Begins (p : Reader α) (tokens : D → List Token) : Prop where
  done : ∀ c a r, p c = .done a r → ∃ d, c.values = tokens d ++ r.values
  stuck : ∀ c k, p c = .stuck k →
    ∃ read d more, c.values = read ++ k.values ∧ tokens d = read ++ more

theorem choose_cases (keywords : Keywords α) (c : Cursor) :
    choose keywords c = .stuck c ∨ ∃ w q c', keywords w = some q ∧
      c.values = .word w :: c'.values ∧ choose keywords c = q c' := by
  obtain ⟨stop, _ | ⟨⟨node, span⟩, rest⟩⟩ := c
  · exact .inl rfl
  · cases node with
    | word w =>
      cases hq : keywords w with
      | none => exact .inl (choose_of_none fun _ hword => Token.word.inj hword ▸ hq)
      | some q => exact .inr ⟨w, q, ⟨span.stop, rest⟩, hq, rfl, choose_of_some hq⟩
    | _ => exact .inl rfl

variable {p : Reader α} {f : α → Reader β} {tokens : D → List Token} {tokens₂ : E → List Token}

namespace Begins

/-- Phrases of one kind are phrases of another. -/
theorem rename (h : Begins p tokens) (g : D → E) (hg : ∀ d, tokens₂ (g d) = tokens d) :
    Begins p tokens₂ where
  done c a r hrun := by
    obtain ⟨d, hread⟩ := h.done c a r hrun
    exact ⟨g d, (hg d).symm ▸ hread⟩
  stuck c k hrun := by
    obtain ⟨read, d, more, hread, hd⟩ := h.stuck c k hrun
    exact ⟨read, g d, more, hread, (hg d).trans hd⟩

/-- Where nothing was read, any phrase can follow. -/
theorem single [Inhabited D] {R : α → D → Prop}
    (h : ∀ c, DecidesAt p tokens (fun _ => True) R c) (hstuck : ∀ c k, p c = .stuck k → k = c) :
    Begins p tokens where
  done c a r hrun := by
    rcases h c with ⟨b, c', d, hdone, hread, -, -⟩ | ⟨k, hk, -⟩
    · obtain ⟨-, rfl⟩ := Reply.done.inj (hdone.symm.trans hrun)
      exact ⟨d, hread⟩
    · exact absurd (hk.symm.trans hrun) nofun
  stuck c k hrun := by
    obtain rfl := hstuck c k hrun
    exact ⟨[], default, tokens default, rfl, rfl⟩

theorem pure {a : α} (d : D) (h : tokens d = []) : Begins (Reader.pure a) tokens where
  done c b r hrun := by
    obtain ⟨-, rfl⟩ := Reply.done.inj hrun
    exact ⟨d, by rw [h, List.nil_append]⟩
  stuck c k hrun := absurd hrun nofun

theorem fail [Inhabited D] : Begins (Reader.fail : Reader α) tokens where
  done c a r hrun := absurd hrun nofun
  stuck c k hrun := by
    obtain rfl := Reply.stuck.inj hrun
    exact ⟨[], default, tokens default, rfl, rfl⟩

/-- Behind the beginning of the first part, any second part completes them. -/
theorem bind [Inhabited E] (h : Begins p tokens) (hnext : ∀ a, Begins (f a) tokens₂) :
    Begins (p >>= f) (both tokens tokens₂) where
  done c b r hrun := by
    rcases bind_cases p f c with ⟨a, c', hp, hbind⟩ | ⟨k, -, hbind⟩
    · obtain ⟨d, hd⟩ := h.done c a c' hp
      obtain ⟨e, he⟩ := (hnext a).done c' b r (hbind.symm.trans hrun)
      exact ⟨(d, e), by rw [hd, he, both, List.append_assoc]⟩
    · cases hbind.symm.trans hrun
  stuck c k hrun := by
    rcases bind_cases p f c with ⟨a, c', hp, hbind⟩ | ⟨k', hp, hbind⟩
    · obtain ⟨d, hd⟩ := h.done c a c' hp
      obtain ⟨read, e, more, hread, he⟩ := (hnext a).stuck c' k (hbind.symm.trans hrun)
      refine ⟨tokens d ++ read, (d, e), more, ?_, ?_⟩
      · rw [hd, hread, List.append_assoc]
      · rw [both, he, List.append_assoc]
    · obtain rfl := Reply.stuck.inj (hbind.symm.trans hrun)
      obtain ⟨read, d, more, hread, hd⟩ := h.stuck c k' hp
      refine ⟨read, (d, default), more ++ tokens₂ default, hread, ?_⟩
      rw [both, hd, List.append_assoc]

/-- What is read is turned into something else. -/
theorem result (h : Begins p tokens) (hf : ∀ a, ∃ b, f a = Reader.pure b) :
    Begins (p >>= f) tokens := by
  have hboth : Begins (p >>= f) (both tokens fun _ : Unit => []) := by
    refine h.bind fun a => ?_
    obtain ⟨b, hb⟩ := hf a
    rw [hb]
    exact .pure () rfl
  exact hboth.rename Prod.fst fun x => (List.append_nil (tokens x.1)).symm

theorem map (h : Begins p tokens) (f : α → β) : Begins (f <$> p) tokens :=
  h.result fun a => ⟨f a, rfl⟩

theorem spanned (h : Begins p tokens) : Begins (spanned p) tokens where
  done c a r hrun := by
    rcases spanned_cases p c with ⟨b, c', hp, hspanned⟩ | ⟨k, -, hspanned⟩
    · obtain ⟨-, rfl⟩ := Reply.done.inj (hspanned.symm.trans hrun)
      exact h.done c b c' hp
    · cases hspanned.symm.trans hrun
  stuck c k hrun := by
    rcases spanned_cases p c with ⟨b, c', -, hspanned⟩ | ⟨k', hp, hspanned⟩
    · cases hspanned.symm.trans hrun
    · obtain rfl := Reply.stuck.inj (hspanned.symm.trans hrun)
      exact h.stuck c k' hp

/-! ## Tokens -/

theorem stuck_take {value : Token → Option α} {c k : Cursor} (h : take value c = .stuck k) :
    k = c := by
  unfold take at h
  split at h
  · exact (Reply.stuck.inj h).symm
  · split at h
    · exact absurd h nofun
    · exact (Reply.stuck.inj h).symm

theorem stuck_spanned_take {value : Token → Option α} {c k : Cursor}
    (h : Reader.spanned (take value) c = .stuck k) : k = c := by
  rcases spanned_cases (take value) c with ⟨b, c', -, hspanned⟩ | ⟨k', htake, hspanned⟩
  · cases hspanned.symm.trans h
  · obtain rfl := Reply.stuck.inj (hspanned.symm.trans h)
    exact stuck_take htake

theorem expect (t : Token) : Begins (Reader.expect t) (fun _ : Unit => [t]) :=
  .single (fun _ => DecidesAt.expect (R := fun _ _ => True) trivial) fun _ _ => stuck_take

theorem skip [Inhabited D] {t : Token} (h : Begins p tokens) :
    Begins (Reader.expect t >>= fun _ => p) (fun d => t :: tokens d) :=
  ((Begins.expect t).bind fun _ => h).rename Prod.snd fun _ => rfl

/-- A token that makes out the whole phrase. -/
theorem sole {t : Token} {a : α} (d : D) (h : tokens d = [t]) :
    Begins (Reader.expect t >>= fun _ => Pure.pure a) tokens :=
  ((Begins.expect t).result fun _ => ⟨a, rfl⟩).rename (fun _ => d) fun _ => h

theorem close {t : Token} {f : α → β} (h : Begins p tokens) :
    Begins (p >>= fun a => Reader.expect t >>= fun _ => Reader.pure (f a))
      (fun d => tokens d ++ [t]) :=
  (h.bind fun a => (Begins.expect t).result fun _ => ⟨f a, rfl⟩).rename Prod.fst fun _ => rfl

/-! ## Looking ahead -/

theorem look {seen : Reader ε} {f : ε → Reader α} (hseen : ∀ c, ∃ e, seen c = .done e c)
    (h : ∀ e, Begins (f e) tokens) : Begins (seen >>= f) tokens where
  done c a r hrun := by
    obtain ⟨e, he⟩ := hseen c
    rw [bind_of_done he] at hrun
    exact (h e).done c a r hrun
  stuck c k hrun := by
    obtain ⟨e, he⟩ := hseen c
    rw [bind_of_done he] at hrun
    exact (h e).stuck c k hrun

theorem peek {f : Option Token → Reader α} (h : ∀ t, Begins (f t) tokens) :
    Begins (peek >>= f) tokens :=
  .look (fun _ => ⟨_, rfl⟩) h

theorem nextIs {t : Token} {f : Bool → Reader α} (h : ∀ b, Begins (f b) tokens) :
    Begins (nextIs t >>= f) tokens :=
  .look (fun _ => ⟨_, rfl⟩) h

/-! ## Lists -/

theorem manyUpTo (h : Begins p tokens) (starts : Token → Bool) (n : Nat) :
    Begins (manyUpTo starts p n) (fun ds : List D => ds.flatMap tokens) := by
  induction n with
  | zero => exact .pure [] rfl
  | succ n ih =>
    refine .peek fun t => ?_
    cases t with
    | none => exact .pure [] rfl
    | some t =>
      dsimp only
      split
      · refine (h.bind fun a => ih.result fun others => ⟨a :: others, rfl⟩).rename
          (fun x : D × List D => x.1 :: x.2) fun x => List.flatMap_cons
      · exact .pure [] rfl

theorem many (h : Begins p tokens) (starts : Token → Bool) :
    Begins (many starts p) (fun ds : List D => ds.flatMap tokens) where
  done c := (h.manyUpTo starts c.ahead.length).done c
  stuck c := (h.manyUpTo starts c.ahead.length).stuck c

/-- Parts with a token before each. -/
theorem others [Inhabited D] {t : Token} (h : Begins p tokens) :
    Begins (Reader.many (· == t) (Reader.expect t >>= fun _ => p))
      (fun ds : List D => ds.flatMap fun d => t :: tokens d) :=
  h.skip.many _

/-! ## Keywords -/

/-- Phrases that follow a keyword. -/
theorem after {w : String} (h : Begins p tokens) (g : D → E)
    (hg : ∀ d, tokens₂ (g d) = .word w :: tokens d) :
    Begins p fun x : After tokens₂ w => x.rest :=
  h.rename (fun d => ⟨g d, tokens d, hg d⟩) fun d => congrArg List.tail (hg d)

/-- Nothing follows the keyword. -/
theorem alone {w : String} {a : α} (d : D) (h : tokens d = [.word w]) :
    Begins (Reader.pure a) fun x : After tokens w => x.rest :=
  .pure ⟨d, [], h⟩ (congrArg List.tail h)

theorem choose [Inhabited D] {keywords : Keywords α}
    (h : ∀ w q, keywords w = some q → Begins q fun x : After tokens w => x.rest) :
    Begins (choose keywords) tokens where
  done c a r hrun := by
    rcases choose_cases keywords c with hstuck | ⟨w, q, c', hq, hvalues, hcontinued⟩
    · cases hstuck.symm.trans hrun
    · obtain ⟨x, hread⟩ := (h w q hq).done c' a r (hcontinued.symm.trans hrun)
      exact ⟨x.1, by rw [hvalues, hread, x.word_cons_rest]; rfl⟩
  stuck c k hrun := by
    rcases choose_cases keywords c with hstuck | ⟨w, q, c', hq, hvalues, hcontinued⟩
    · obtain rfl := Reply.stuck.inj (hstuck.symm.trans hrun)
      exact ⟨[], default, tokens default, rfl, rfl⟩
    · obtain ⟨read, x, more, hread, hx⟩ := (h w q hq).stuck c' k (hcontinued.symm.trans hrun)
      exact ⟨.word w :: read, x.1, more, by rw [hvalues, hread]; rfl, by
        rw [x.word_cons_rest, hx]; rfl⟩

/-- A reader of phrases that have tokens takes one. -/
theorem eats (h : Begins p tokens) (hne : ∀ d, tokens d ≠ []) : Eats p := by
  intro c a r hrun
  obtain ⟨d, hread⟩ := h.done c a r hrun
  have hlength := congrArg List.length hread
  rw [List.length_append, length_values, length_values] at hlength
  have hpos := List.length_pos_iff.2 (hne d)
  omega

end Begins
end Reader

end Script
end TextAdventure
