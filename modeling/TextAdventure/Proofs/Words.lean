/-
Words by their names.

Rules are compared word by word, and words by name alone, although two words of
one name may be spelled differently.  In a family where a name has one set of
spellings the comparison loses nothing: whatever fits a word fits every word of
its name.  The words that a script can use are such a family.
-/
import TextAdventure.Proofs.Text.AsciiCase
import TextAdventure.Script.Lexicon

namespace TextAdventure

open Text

/-! ## Names of words -/

namespace NamedWord

theorem same_refl (w : NamedWord) : w.same w = true := sameName_refl w.name

theorem same_comm (a b : NamedWord) : a.same b = b.same a := sameName_comm a.name b.name

theorem same_symm {a b : NamedWord} (h : a.same b = true) : b.same a = true :=
  (same_comm b a).trans h

theorem same_trans {a b c : NamedWord} (hab : a.same b = true) (hbc : b.same c = true) :
    a.same c = true := sameName_trans hab hbc

theorem same_congr_right {a b : NamedWord} (h : a.same b = true) (w : NamedWord) :
    w.same a = w.same b := by
  rw [Bool.eq_iff_iff]
  exact ⟨fun hwa => same_trans hwa h, fun hwb => same_trans hwb (same_symm h)⟩

end NamedWord

/-! ## Families of words -/

/-- A family in which the words of one name have the same spellings. -/
def Kindred (P : NamedWord → Prop) : Prop :=
  ∀ ⦃a b : NamedWord⦄, P a → P b → a.same b = true → a.spellings = b.spellings

namespace Word

/-- Whether a word is of a family, if it is a named one. -/
def Within (P : NamedWord → Prop) : Word → Prop
  | .named w => P w
  | _ => True

/-- What fits a word fits every other of its name in the family. -/
theorem fits_congr {P : NamedWord → Prop} (hP : Kindred P) {a b : Word} (ha : a.Within P)
    (hb : b.Within P) (h : a.same b = true) (w : Word) : w.fits a = w.fits b := by
  cases a with
  | named x =>
    cases b with
    | named y =>
      have hxy : x.spellings = y.spellings := hP ha hb h
      cases w <;> simp only [fits, NamedWord.overlaps, hxy]
    | _ => simp [same] at h
  | _ => cases b <;> first | rfl | simp [same] at h

end Word

namespace Script

/-- The words that the tokens of a script stand for. -/
def Minted (lexicon : Vocabulary) (w : NamedWord) : Prop :=
  ∃ token, w = wordFor lexicon token

theorem wordFor_cases (lexicon : Vocabulary) (token : String) :
    wordFor lexicon token ∈ lexicon.words ∨
      (wordFor lexicon token = .ofName token ∧ ∀ w ∈ lexicon.words, w.accepts token = false) := by
  unfold wordFor
  cases h : lexicon.find? token with
  | some w => exact .inl (List.mem_of_find?_eq_some h)
  | none => exact .inr ⟨rfl, fun w hw => by simpa using List.find?_eq_none.1 h w hw⟩

/-- A vocabulary holds one word of a name. -/
theorem eq_of_mem_of_same {v : Vocabulary} {a b : NamedWord} (ha : a ∈ v.words)
    (hb : b ∈ v.words) (h : a.same b = true) : a = b := by
  have hforth : v.words.Pairwise fun x y => x.same y = true → x = y :=
    v.distinct.imp fun hxy htrue => by rw [hxy] at htrue; exact absurd htrue Bool.false_ne_true
  have hback : v.words.Pairwise fun x y => y.same x = true → y = x :=
    hforth.imp fun hxy htrue => (hxy (NamedWord.same_symm htrue)).symm
  exact hforth.forall_of_forall_of_flip (fun x _ _ => rfl) hback ha hb h

theorem accepts_of_same {a : NamedWord} {token : String}
    (h : sameName a.name token = true) : a.accepts token = true := by
  rw [NamedWord.accepts, ← upper_eq_of_sameName h]
  exact a.name_mem

/-- The words that a script can use: those that are declared, and those that no
declared word accepts. -/
def Usable (lexicon : Vocabulary) (w : NamedWord) : Prop :=
  w ∈ lexicon.words ∨
    ∃ token, w = .ofName token ∧ ∀ known ∈ lexicon.words, known.accepts token = false

theorem usable_wordFor (lexicon : Vocabulary) (token : String) :
    Usable lexicon (wordFor lexicon token) :=
  (wordFor_cases lexicon token).imp id fun hnew => ⟨token, hnew⟩

theorem kindred_usable (lexicon : Vocabulary) : Kindred (Usable lexicon) := by
  rintro a b (ha | ⟨s, rfl, hs⟩) (hb | ⟨t, rfl, ht⟩) h
  · rw [eq_of_mem_of_same ha hb h]
  · -- a declared word of the name would have accepted the token
    exact absurd (accepts_of_same h) (Bool.eq_false_iff.1 (ht _ ha))
  · exact absurd (accepts_of_same (NamedWord.same_symm h)) (Bool.eq_false_iff.1 (hs _ hb))
  · have hup : upper s = upper t := upper_eq_of_sameName h
    show NameSet.insert .empty (upper s) = NameSet.insert .empty (upper t)
    rw [hup]

theorem kindred_minted (lexicon : Vocabulary) : Kindred (Minted lexicon) := by
  rintro a b ⟨s, rfl⟩ ⟨t, rfl⟩ h
  exact kindred_usable lexicon (usable_wordFor lexicon s) (usable_wordFor lexicon t) h

end Script

end TextAdventure
