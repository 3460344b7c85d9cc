/-
The tokens that a part is read from.

What a reader takes is a run of the tokens ahead, and the place it gives to a
part is that of the run.  So of each part it can be said which tokens it was
read from: if this is known of the parts of a part, the tokens of the whole are
theirs, one after the other.
-/
import TextAdventure.Proofs.Syntax.Abreast

namespace TextAdventure
namespace Script

/-- Whether a span is that of a run of tokens, from its first to its last. -/
def Spans (run : List (Spanned Token)) (span : Span) : Prop :=
  run.head?.map (·.span.start) = some span.start ∧
    run.getLast?.map (·.span.stop) = some span.stop

namespace Cursor

/-- Whether some tokens are the next ones at a cursor, and what is left when they
are read. -/
structure Reads (c : Cursor) (read : List (Spanned Token)) (r : Cursor) : Prop where
  ahead : c.ahead = read ++ r.ahead
  stop : r.stop = (read.getLast?.map (·.span.stop)).getD c.stop

theorem reads_nil (c : Cursor) : c.Reads [] c := ⟨rfl, rfl⟩

theorem reads_cons (stop : Nat) (t : Spanned Token) (rest : List (Spanned Token)) :
    Reads ⟨stop, t :: rest⟩ [t] ⟨t.span.stop, rest⟩ := ⟨rfl, rfl⟩

namespace Reads

variable {c d r : Cursor} {read more : List (Spanned Token)}

theorem append (h : c.Reads read d) (h' : d.Reads more r) : c.Reads (read ++ more) r := by
  refine ⟨by rw [h.ahead, h'.ahead, List.append_assoc], ?_⟩
  rw [h'.stop, h.stop, List.getLast?_append]
  cases more.getLast? with
  | none => rfl
  | some t => rfl

/-- What is read from some tokens is placed where they are. -/
theorem spans (h : c.Reads read r) (hne : read ≠ []) : Spans read ⟨c.start, r.stop⟩ := by
  obtain ⟨t, rest, rfl⟩ := List.exists_cons_of_ne_nil hne
  constructor
  · rw [start, h.ahead]
    rfl
  · rw [h.stop]
    cases hlast : (t :: rest).getLast? with
    | none => exact absurd (List.getLast?_eq_none_iff.1 hlast) (List.cons_ne_nil t rest)
    | some last => rfl

end Reads

theorem reads_skip (c : Cursor) (k : Nat) : c.Reads (c.ahead.take k) (c.skip k) := by
  induction k generalizing c with
  | zero => exact c.reads_nil
  | succ k ih =>
    obtain ⟨stop, ahead⟩ := c
    cases ahead with
    | nil => exact reads_nil _
    | cons t rest => exact (reads_cons stop t rest).append (ih ⟨t.span.stop, rest⟩)

end Cursor

namespace Reader

variable {α β : Type}

/-- Whether something is so of all that a reader reads, and of the tokens that it
reads it from. -/
def Yields (p : Reader α) (Q : List (Spanned Token) → α → Prop) : Prop :=
  ∀ c a r, p c = .done a r → ∃ read, c.Reads read r ∧ Q read a

namespace Yields

variable {p : Reader α} {f : α → Reader β} {P : List (Spanned Token) → α → Prop}
  {Q : List (Spanned Token) → β → Prop}

theorem imp {P' : List (Spanned Token) → α → Prop} (h : Yields p P)
    (himp : ∀ read a, P read a → P' read a) : Yields p P' := by
  intro c a r hrun
  obtain ⟨read, hread, ha⟩ := h c a r hrun
  exact ⟨read, hread, himp read a ha⟩

/-- The tokens that are read are known from those that are left, so that two
things may be said of the same ones. -/
theorem and {P' : List (Spanned Token) → α → Prop} (h : Yields p P) (h' : Yields p P') :
    Yields p fun read a => P read a ∧ P' read a := by
  intro c a r hrun
  obtain ⟨read, hread, ha⟩ := h c a r hrun
  obtain ⟨read', hread', ha'⟩ := h' c a r hrun
  obtain rfl := List.append_cancel_right (hread.ahead.symm.trans hread'.ahead)
  exact ⟨read, hread, ha, ha'⟩

theorem pure {a : α} (h : P [] a) : Yields (Reader.pure a) P := by
  intro c a' r hrun
  obtain ⟨rfl, rfl⟩ := Reply.done.inj hrun
  exact ⟨[], c.reads_nil, h⟩

theorem bind (h : Yields p P)
    (hnext : ∀ read a, P read a → Yields (f a) fun more b => Q (read ++ more) b) :
    Yields (p >>= f) Q := by
  intro c b r hrun
  rcases bind_cases p f c with ⟨a, c', hp, hbind⟩ | ⟨k, -, hbind⟩
  · obtain ⟨read, hread, ha⟩ := h c a c' hp
    obtain ⟨more, hmore, hb⟩ := hnext read a ha c' b r (hbind.symm.trans hrun)
    exact ⟨read ++ more, hread.append hmore, hb⟩
  · exact absurd (hbind.symm.trans hrun) nofun

theorem map {g : α → β} (h : Yields p P) (hg : ∀ read a, P read a → Q read (g a)) :
    Yields (g <$> p) Q := by
  refine h.bind fun read a ha => .pure ?_
  rw [List.append_nil]
  exact hg read a ha

/-- Whatever reads the same wherever the same is ahead takes a run of tokens. -/
theorem of_alike (h : ∀ m m', Alike m m' p p) : Yields p fun _ _ => True := by
  intro c a r hrun
  obtain ⟨k, -, ⟨b, hdone, -⟩ | ⟨hstuck, -⟩⟩ := h _ _ c c (Nat.le_refl _) (Nat.le_refl _)
  · obtain ⟨-, rfl⟩ := Reply.done.inj (hrun.symm.trans hdone)
    exact ⟨c.ahead.take k, c.reads_skip k, trivial⟩
  · exact absurd (hrun.symm.trans hstuck) nofun

theorem spanned (h : Yields p P) :
    Yields (Reader.spanned p) fun read s => P read s.node ∧ (read ≠ [] → Spans read s.span) := by
  intro c a r hrun
  rcases spanned_cases p c with ⟨b, c', hp, hspanned⟩ | ⟨k, -, hspanned⟩
  · obtain ⟨rfl, rfl⟩ := Reply.done.inj (hspanned.symm.trans hrun)
    obtain ⟨read, hread, hb⟩ := h c b c' hp
    exact ⟨read, hread, hb, hread.spans⟩
  · exact absurd (hspanned.symm.trans hrun) nofun

/-! ## Tokens -/

theorem take (value : Token → Option α) :
    Yields (Reader.take value) fun read a => ∃ t, read = [t] ∧ value t.node = some a := by
  rintro ⟨stop, ahead⟩ a r hrun
  cases ahead with
  | nil => exact absurd hrun nofun
  | cons t rest =>
    cases hread : value t.node with
    | none =>
      rw [take_of_none hread] at hrun
      exact absurd hrun nofun
    | some b =>
      rw [take_of_some hread] at hrun
      obtain ⟨rfl, rfl⟩ := Reply.done.inj hrun
      exact ⟨[t], Cursor.reads_cons stop t rest, t, rfl, hread⟩

theorem expect (t : Token) :
    Yields (Reader.expect t) fun read _ => ∃ s, read = [s] ∧ s.node = t := by
  refine (Yields.take _).imp fun read _ => ?_
  rintro ⟨s, rfl, hs⟩
  refine ⟨s, rfl, ?_⟩
  by_contra hne
  rw [if_neg hne] at hs
  exact absurd hs nofun

/-- What is read from one token stands where that does. -/
theorem token (value : Token → Option α) : Yields (Reader.spanned (Reader.take value))
    fun read s => ∃ t, read = [t] ∧ value t.node = some s.node ∧ s.span = t.span := by
  refine (Yields.take value).spanned.imp fun read s => ?_
  rintro ⟨⟨t, rfl, ht⟩, hspans⟩
  obtain ⟨hstart, hstop⟩ := hspans (List.cons_ne_nil _ _)
  refine ⟨t, rfl, ht, ?_⟩
  obtain ⟨node, start, stop⟩ := s
  cases hstart
  cases hstop
  rfl

/-! ## Looking ahead -/

theorem peek {f : Option Token → Reader β} (h : ∀ t, Yields (f t) Q) :
    Yields (Reader.peek >>= f) Q :=
  fun c => h _ c

theorem nextIs {t : Token} {f : Bool → Reader β} (h : ∀ b, Yields (f b) Q) :
    Yields (Reader.nextIs t >>= f) Q :=
  fun c => h _ c

/-! ## Lists -/

theorem manyUpTo (h : Yields p P) (starts : Token → Bool) (n : Nat) :
    Yields (Reader.manyUpTo starts p n) fun read as =>
      ∃ parts : List (List (Spanned Token)), read = parts.flatten ∧ List.Forall₂ P parts as := by
  induction n with
  | zero => exact .pure ⟨[], rfl, .nil⟩
  | succ n ih =>
    refine .peek fun t => ?_
    cases t with
    | none => exact .pure ⟨[], rfl, .nil⟩
    | some t =>
      dsimp only
      split
      · refine h.bind fun part first hfirst => ih.bind fun read others => ?_
        rintro ⟨parts, rfl, hothers⟩
        refine .pure ⟨part :: parts, ?_, .cons hfirst hothers⟩
        rw [List.append_nil, List.flatten_cons]
      · exact .pure ⟨[], rfl, .nil⟩

theorem many (h : Yields p P) (starts : Token → Bool) :
    Yields (Reader.many starts p) fun read as =>
      ∃ parts : List (List (Spanned Token)), read = parts.flatten ∧ List.Forall₂ P parts as :=
  fun c => h.manyUpTo starts c.ahead.length c

theorem choose {keywords : Keywords α}
    (h : ∀ w q, keywords w = some q → ∀ t, t.node = .word w →
      Yields q fun more a => P (t :: more) a) :
    Yields (Reader.choose keywords) P := by
  refine (Yields.take _).bind fun read q => ?_
  rintro ⟨t, rfl, hq⟩
  obtain ⟨node, span⟩ := t
  cases node with
  | word w => exact h w q hq _ rfl
  | _ => exact absurd hq nofun

end Yields
end Reader

end Script
end TextAdventure
