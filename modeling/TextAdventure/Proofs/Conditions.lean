/-
Conditions: which of them hold together.

Two conditions that are written alike, with words of a family in which a name has
one set of spellings, always agree.  Since one that takes no draw has one answer
for a state, a rule that drops a condition it already has is not changed by it.
-/
import TextAdventure.Proofs.Chances
import TextAdventure.Proofs.Words
import TextAdventure.Rule

namespace TextAdventure
namespace Condition

variable {v : Scope} {s : State}

/-! ## Conditions written alike -/

mutual
/-- The words of a condition. -/
def words : Condition → List Word
  | .word _ w => [w]
  | .exit direction => [direction]
  | .not c => words c
  | .all cs => wordsOf cs
  | .any cs => wordsOf cs
  | _ => []

def wordsOf : List Condition → List Word
  | [] => []
  | c :: rest => words c ++ wordsOf rest
end

/-- Whether the words of a condition are of a family. -/
def Within (P : NamedWord → Prop) (c : Condition) : Prop :=
  ∀ w ∈ c.words, w.Within P

theorem within_cons {P : NamedWord → Prop} {c : Condition} {cs : List Condition}
    (h : ∀ w ∈ wordsOf (c :: cs), w.Within P) :
    c.Within P ∧ ∀ w ∈ wordsOf cs, w.Within P := by
  rw [wordsOf] at h
  exact ⟨fun w hw => h w (List.mem_append_left _ hw),
    fun w hw => h w (List.mem_append_right _ hw)⟩

theorem within_of_mem {P : NamedWord → Prop} {c : Condition} {cs : List Condition} (hc : c ∈ cs)
    (h : ∀ w ∈ wordsOf cs, w.Within P) : c.Within P := by
  induction cs with
  | nil => exact absurd hc List.not_mem_nil
  | cons d rest ih =>
    obtain ⟨hd, hrest⟩ := within_cons h
    rcases List.mem_cons.1 hc with rfl | hc
    · exact hd
    · exact ih hc hrest

mutual
/-- Conditions that are written alike agree. -/
theorem holds_congr {P : NamedWord → Prop} (hP : Kindred P) {c d : Condition}
    (hc : c.Within P) (hd : d.Within P) (h : c.same d = true) (draws : Draws) :
    holds v s c draws = holds v s d draws := by
  cases c with
  | word p w =>
    cases d with
    | word q u =>
      obtain ⟨hpq, hwu⟩ := Bool.and_eq_true_iff.1 h
      have hfits := Word.fits_congr hP (hc w List.mem_cons_self) (hd u List.mem_cons_self) hwu
      rw [holds, holds, eq_of_beq hpq, hfits]
    | _ => exact absurd h Bool.false_ne_true
  | exit w =>
    cases d with
    | exit u =>
      have hfits := Word.fits_congr hP (hc w List.mem_cons_self) (hd u List.mem_cons_self) h
      have hexit : ∀ r : Room, r.hasExit w = r.hasExit u := by
        intro r
        simp only [Room.hasExit, Room.exitTowards, hfits]
      simp only [holds, hexit]
    | _ => exact absurd h Bool.false_ne_true
  | not c =>
    cases d with
    | not d => rw [holds, holds, holds_congr hP (c := c) (d := d) hc hd h draws]
    | _ => exact absurd h Bool.false_ne_true
  | all cs =>
    cases d with
    | all ds => exact allHold_congr hP hc hd (show sameAll cs ds = true from h) draws
    | _ => exact absurd h Bool.false_ne_true
  | any cs =>
    cases d with
    | any ds => exact someHold_congr hP hc hd (show sameAll cs ds = true from h) draws
    | _ => exact absurd h Bool.false_ne_true
  | _ =>
    -- the others hold names and numbers only, which are equal
    cases d with
    | _ =>
      first
      | exact absurd h Bool.false_ne_true
      | simp only [same, Bool.and_eq_true, beq_iff_eq] at h
        simp only [h]

theorem allHold_congr {P : NamedWord → Prop} (hP : Kindred P) {cs ds : List Condition}
    (hc : ∀ w ∈ wordsOf cs, w.Within P) (hd : ∀ w ∈ wordsOf ds, w.Within P)
    (h : sameAll cs ds = true) (draws : Draws) :
    allHold v s cs draws = allHold v s ds draws := by
  cases cs with
  | nil =>
    cases ds with
    | nil => rfl
    | cons d ds => exact absurd h Bool.false_ne_true
  | cons c cs =>
    cases ds with
    | nil => exact absurd h Bool.false_ne_true
    | cons d ds =>
      obtain ⟨hcd, hrest⟩ := Bool.and_eq_true_iff.1 h
      obtain ⟨hc, hcs⟩ := within_cons hc
      obtain ⟨hd, hds⟩ := within_cons hd
      rw [allHold, allHold, holds_congr hP hc hd hcd]
      split
      · exact allHold_congr hP hcs hds hrest _
      · rfl

theorem someHold_congr {P : NamedWord → Prop} (hP : Kindred P) {cs ds : List Condition}
    (hc : ∀ w ∈ wordsOf cs, w.Within P) (hd : ∀ w ∈ wordsOf ds, w.Within P)
    (h : sameAll cs ds = true) (draws : Draws) :
    someHold v s cs draws = someHold v s ds draws := by
  cases cs with
  | nil =>
    cases ds with
    | nil => rfl
    | cons d ds => exact absurd h Bool.false_ne_true
  | cons c cs =>
    cases ds with
    | nil => exact absurd h Bool.false_ne_true
    | cons d ds =>
      obtain ⟨hcd, hrest⟩ := Bool.and_eq_true_iff.1 h
      obtain ⟨hc, hcs⟩ := within_cons hc
      obtain ⟨hd, hds⟩ := within_cons hd
      rw [someHold, someHold, holds_congr hP hc hd hcd]
      split
      · rfl
      · exact someHold_congr hP hcs hds hrest _
end

end Condition
end TextAdventure
