/-
Rules made from a pattern.

A pattern becomes one condition for each of its words, at the positions counted
from one.  The builder drops a condition that is written like one it has, but no
two conditions of a pattern are, since each asks at a position of its own.  So the
rule is satisfied exactly by the commands that fit the pattern, and no draw is
taken to find that out.
-/
import Mathlib.Data.List.GetD
import TextAdventure.Proofs.Repeats

namespace TextAdventure

/-! ## Commands that fit -/

namespace Command

variable {c other : Command} {pattern : List Word}

theorem word_past_end (c : Command) (n : Nat) : c.word (c.length + n + 1) = .none :=
  List.getD_eq_default c.words .none (Nat.le_add_right c.words.length n)

theorem fitsFrom_eq (c : Command) (pattern : List Word) (n : Nat) :
    c.fitsFrom (n + 1) pattern =
      (pattern.zipIdx n).all fun entry => (c.words.getD entry.2 .none).fits entry.1 := by
  induction pattern generalizing n with
  | nil => rfl
  | cons w rest ih =>
    rw [fitsFrom, List.zipIdx_cons, List.all_cons, ih (n + 1)]
    rfl

/-- A command fits if each word of the pattern fits the one that stands at its
index, where nothing stands past the end. -/
theorem fits_eq (c : Command) (pattern : List Word) : c.fits pattern =
    pattern.zipIdx.all fun entry => (c.words.getD entry.2 .none).fits entry.1 :=
  fitsFrom_eq c pattern 0

theorem fits_congr (h : ∀ i < pattern.length, c.words.getD i .none = other.words.getD i .none) :
    c.fits pattern = other.fits pattern := by
  rw [fits_eq, fits_eq, Bool.eq_iff_iff, List.all_eq_true, List.all_eq_true]
  refine forall₂_congr fun entry hentry => ?_
  rw [h entry.2 (by simpa using List.snd_lt_of_mem_zipIdx hentry)]

/-- Words past the end of the pattern are not looked at. -/
theorem fits_take (c : Command) (tokens : List String) (pattern : List Word) :
    (Command.mk (c.words.take pattern.length) tokens).fits pattern = c.fits pattern := by
  refine fits_congr fun i hi => ?_
  rw [List.getD_eq_getElem?_getD, List.getD_eq_getElem?_getD, List.getElem?_take_of_lt hi]

end Command

/-! ## Conditions of a pattern -/

namespace Rule

open Condition

variable {v : Scope} {s : State}

/-- A rule gets all that it is given if no two conditions are written alike. -/
theorem conditions_foldl_when {cs : List Condition} {r : Rule}
    (h : (r.conditions ++ cs).Pairwise fun c d => c.same d = false) :
    (cs.foldl when r).conditions = r.conditions ++ cs := by
  induction cs generalizing r with
  | nil => exact (List.append_nil _).symm
  | cons c rest ih =>
    have hkept : (r.when c).conditions = r.conditions ++ [c] := by
      refine (conditions_when r c).resolve_right ?_
      rintro ⟨-, -, d, hd, hsame⟩
      have hother := (List.pairwise_append.1 h).2.2 d hd c List.mem_cons_self
      exact absurd hsame (Bool.eq_false_iff.1 hother)
    have hrest : (r.when c).conditions ++ rest = r.conditions ++ c :: rest := by
      rw [hkept, List.append_assoc, List.singleton_append]
    rw [List.foldl_cons, ih (hrest ▸ h), hrest]

theorem exists_of_mem_wordsFrom {pattern : List Word} {p : Nat} {c : Condition}
    (h : c ∈ wordsFrom p pattern) : ∃ q w, p ≤ q ∧ c = .word q w := by
  induction pattern generalizing p with
  | nil => exact absurd h List.not_mem_nil
  | cons w rest ih =>
    rcases List.mem_cons.1 h with rfl | h
    · exact ⟨p, w, Nat.le_refl p, rfl⟩
    · obtain ⟨q, u, hq, rfl⟩ := ih h
      exact ⟨q, u, Nat.le_of_succ_le hq, rfl⟩

theorem pairwise_wordsFrom (pattern : List Word) (p : Nat) :
    (wordsFrom p pattern).Pairwise fun c d => c.same d = false := by
  induction pattern generalizing p with
  | nil => exact .nil
  | cons w rest ih =>
    refine List.pairwise_cons.2 ⟨fun c hc => ?_, ih (p + 1)⟩
    obtain ⟨q, u, hq, rfl⟩ := exists_of_mem_wordsFrom hc
    have hne : (p == q) = false := beq_false_of_ne (Nat.ne_of_lt hq)
    show (p == q && w.same u) = false
    rw [hne, Bool.false_and]

theorem conditions_on (pattern : List Word) : (on pattern).conditions = wordsFrom 1 pattern := by
  rw [on, whenWords_eq]
  exact conditions_foldl_when (pairwise_wordsFrom pattern 1)

theorem length_wordsFrom (pattern : List Word) (p : Nat) :
    (wordsFrom p pattern).length = pattern.length := by
  induction pattern generalizing p with
  | nil => rfl
  | cons w rest ih => exact congrArg (· + 1) (ih (p + 1))

theorem allHold_wordsFrom (pattern : List Word) (p : Nat) (draws : Draws) :
    allHold v s (wordsFrom p pattern) draws = (v.command.fitsFrom p pattern, draws) := by
  induction pattern generalizing p with
  | nil => rfl
  | cons w rest ih =>
    rw [wordsFrom, allHold, holds, Command.fitsFrom]
    cases (v.command.word p).fits w with
    | true => exact ih (p + 1)
    | false => rfl

/-- The rule of a pattern has one condition for each word of it, and is satisfied
by the commands that fit it, whatever the world, the state and the draws, of which
it takes none.  What is past the end of the command counts as no word, and what is
past the end of the pattern as nothing at all. -/
theorem on_satisfied_by_fits (pattern : List Word) (command : Command) (world : World) (s : State)
    (draws : Draws) :
    (on pattern).conditions = wordsFrom 1 pattern ∧
    (on pattern).conditions.length = pattern.length ∧
    (on pattern).isSatisfied ⟨world, command⟩ s draws = (command.fits pattern, draws) ∧
    command.fits pattern =
      (pattern.zipIdx.all fun entry => (command.words.getD entry.2 .none).fits entry.1) ∧
    (∀ n, command.word (command.length + n + 1) = .none) ∧
    ∀ tokens, (Command.mk (command.words.take pattern.length) tokens).fits pattern =
      command.fits pattern := by
  have hconditions := conditions_on pattern
  refine ⟨hconditions, ?_, ?_, command.fits_eq pattern, command.word_past_end,
    fun tokens => command.fits_take tokens pattern⟩
  · rw [hconditions, length_wordsFrom]
  · rw [isSatisfied, hconditions, allHold_wordsFrom, Command.fits]

end Rule
end TextAdventure
