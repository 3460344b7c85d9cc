/-
Words by their spellings.

Words are put in upper case before they are compared, and so is what is typed.
Upper case tells less than what it is made of, and may be longer: a sharp s
becomes two capitals.  Still, each spelling of a word is the upper case of a text
that was given as one, however the word was built, and that text can be typed.  So
words that share a spelling share a token, and it fits both.
-/
import Mathlib.Data.List.Basic
import TextAdventure.Proofs.Vocabulary

namespace TextAdventure

open Text

/-! ## Tokens of a word -/

theorem NameSet.meets_iff {s t : NameSet} :
    s.meets t = true ↔ ∃ name, Table.contains s name = true ∧ Table.contains t name = true := by
  rw [meets, List.any_eq_true]
  simp only [Table.contains_iff_mem_names]

namespace NamedWord

theorem accepts_addSynonym_iff {w : NamedWord} {synonym token : String} :
    (w.addSynonym synonym).accepts token = true ↔
      w.accepts token = true ∨ trim synonym ≠ "" ∧ upper token = upper (trim synonym) := by
  rw [addSynonym]
  by_cases hblank : trim synonym = ""
  · simp [hblank]
  · have hadded : (w.addSpelling (trim synonym)).accepts token =
        (decide (upper token = upper (trim synonym)) || w.accepts token) :=
      NameSet.contains_insert w.spellings (upper (trim synonym)) (upper token)
    rw [if_neg hblank, hadded, Bool.or_eq_true, decide_eq_true_eq, or_comm,
      and_iff_right hblank]

/-- A word accepts its name and its synonyms, less the blanks around them. -/
theorem accepts_withSynonyms_iff {name token : String} {synonyms : List String} :
    (withSynonyms name synonyms).accepts token = true ↔ upper token = upper name ∨
      ∃ synonym ∈ synonyms, trim synonym ≠ "" ∧ upper token = upper (trim synonym) := by
  have hfold : ∀ w : NamedWord, (synonyms.foldl addSynonym w).accepts token = true ↔
      w.accepts token = true ∨
        ∃ synonym ∈ synonyms, trim synonym ≠ "" ∧ upper token = upper (trim synonym) := by
    induction synonyms with
    | nil => simp
    | cons synonym rest ih =>
      intro w
      rw [List.foldl_cons, ih, accepts_addSynonym_iff, List.exists_mem_cons_iff, or_assoc]
  have hname : (ofName name).accepts token = true ↔ upper token = upper name := by
    rw [accepts, ofName, NameSet.contains_insert, Bool.or_eq_true, decide_eq_true_eq]
    exact or_iff_left Bool.false_ne_true
  rw [withSynonyms, hfold, hname]

/-- Words overlap exactly if there is a token that both accept. -/
theorem overlaps_iff {a b : NamedWord} :
    a.overlaps b = true ↔ ∃ token, a.accepts token = true ∧ b.accepts token = true := by
  rw [overlaps, NameSet.meets_iff]
  constructor
  · rintro ⟨spelling, ha, hb⟩
    obtain ⟨token, rfl, htoken⟩ := spellings_contains_iff.1 ha
    exact ⟨token, htoken, hb⟩
  · rintro ⟨token, ha, hb⟩
    exact ⟨upper token, ha, hb⟩

theorem overlaps_comm (a b : NamedWord) : a.overlaps b = b.overlaps a := by
  rw [Bool.eq_iff_iff, overlaps_iff, overlaps_iff]
  exact exists_congr fun token => and_comm

theorem overlaps_of_accepts_imp {a a' b : NamedWord}
    (h : ∀ token, a.accepts token = true → a'.accepts token = true) (hab : a.overlaps b = true) :
    a'.overlaps b = true := by
  obtain ⟨token, ha, hb⟩ := overlaps_iff.1 hab
  exact overlaps_iff.2 ⟨token, h token ha, hb⟩

end NamedWord

/-! ## How words are built -/

/-- How a word was built. -/
inductive Coinage where
  | ofName (name : String)
  | withSynonyms (name : String) (synonyms : List String)
  | addSynonym (c : Coinage) (synonym : String)
  | merge (c other : Coinage)

namespace Coinage

def word : Coinage → NamedWord
  | .ofName name => .ofName name
  | .withSynonyms name synonyms => .withSynonyms name synonyms
  | .addSynonym c synonym => c.word.addSynonym synonym
  | .merge c other => c.word.merge other.word

/-- What a text adds that is given as a synonym: nothing if it is blank. -/
def given (synonym : String) : List String :=
  if trim synonym = "" then [] else [trim synonym]

/-- The names and the synonyms that went into a word, as they were written. -/
def tokens : Coinage → List String
  | .ofName name => [name]
  | .withSynonyms name synonyms => name :: synonyms.flatMap given
  | .addSynonym c synonym => c.tokens ++ given synonym
  | .merge c other => c.tokens ++ other.tokens

variable {token synonym : String}

theorem mem_given : token ∈ given synonym ↔ trim synonym ≠ "" ∧ token = trim synonym := by
  rw [given]
  split
  · next hblank => simp [hblank]
  · next hblank => simp [hblank]

theorem exists_mem_given : (∃ t ∈ given synonym, upper token = upper t) ↔
    trim synonym ≠ "" ∧ upper token = upper (trim synonym) := by
  constructor
  · rintro ⟨t, ht, htoken⟩
    obtain ⟨hblank, rfl⟩ := mem_given.1 ht
    exact ⟨hblank, htoken⟩
  · rintro ⟨hblank, htoken⟩
    exact ⟨_, mem_given.2 ⟨hblank, rfl⟩, htoken⟩

/-- A word accepts what went into it, in any case, and nothing else. -/
theorem accepts_iff (c : Coinage) (token : String) :
    c.word.accepts token = true ↔ ∃ t ∈ c.tokens, upper token = upper t := by
  induction c with
  | ofName name =>
    show (NamedWord.withSynonyms name []).accepts token = true ↔ _
    simp [NamedWord.accepts_withSynonyms_iff, tokens]
  | withSynonyms name synonyms =>
    rw [word, NamedWord.accepts_withSynonyms_iff, tokens, List.exists_mem_cons_iff]
    simp only [List.mem_flatMap, ← exists_mem_given]
    refine or_congr_right ⟨?_, ?_⟩
    · rintro ⟨synonym, hsynonym, t, ht, htoken⟩
      exact ⟨t, ⟨synonym, hsynonym, ht⟩, htoken⟩
    · rintro ⟨t, ⟨synonym, hsynonym, ht⟩, htoken⟩
      exact ⟨synonym, hsynonym, t, ht, htoken⟩
  | addSynonym c synonym ih =>
    rw [word, NamedWord.accepts_addSynonym_iff, ih, ← exists_mem_given, tokens]
    simp only [List.mem_append, or_and_right, exists_or]
  | merge c other ih ihother =>
    rw [word, NamedWord.accepts_merge, Bool.or_eq_true, ih, ihother, tokens]
    simp only [List.mem_append, or_and_right, exists_or]

/-- Each spelling of a word is the upper case of what went into it. -/
theorem spellings_iff (c : Coinage) (spelling : String) :
    c.word.spellings.contains spelling = true ↔ ∃ t ∈ c.tokens, upper t = spelling := by
  rw [NamedWord.spellings_contains_iff]
  constructor
  · rintro ⟨token, rfl, htoken⟩
    obtain ⟨t, ht, hupper⟩ := (accepts_iff c token).1 htoken
    exact ⟨t, ht, hupper.symm⟩
  · rintro ⟨t, ht, rfl⟩
    exact ⟨t, rfl, (accepts_iff c t).2 ⟨t, ht, rfl⟩⟩

theorem overlaps_word_iff (c d : Coinage) :
    c.word.overlaps d.word = true ↔ ∃ s ∈ c.tokens, ∃ t ∈ d.tokens, upper s = upper t := by
  rw [NamedWord.overlaps, NameSet.meets_iff]
  simp only [spellings_iff]
  constructor
  · rintro ⟨spelling, ⟨s, hs, rfl⟩, t, ht, hupper⟩
    exact ⟨s, hs, t, ht, hupper.symm⟩
  · rintro ⟨s, hs, t, ht, hupper⟩
    exact ⟨upper s, ⟨s, hs, rfl⟩, t, ht, hupper.symm⟩

end Coinage

/-! ## Words that fit -/

namespace Word

theorem fits_comm (a b : Word) : a.fits b = b.fits a := by
  cases a with
  | named x =>
    cases b with
    | named y => exact NamedWord.overlaps_comm x y
    | none | any | unrecognized => rfl
  | none | any | unrecognized => cases b <;> rfl

/-- What becomes of a word when synonyms are added to it and words are merged into
it, any number of times.  What is no named word stays as it is. -/
inductive Grows : Word → Word → Prop where
  | refl (a : Word) : Grows a a
  | addSynonym {a : Word} {w : NamedWord} (synonym : String) :
    Grows a (.named w) → Grows a (.named (w.addSynonym synonym))
  | merge {a : Word} {w : NamedWord} (other : NamedWord) :
    Grows a (.named w) → Grows a (.named (w.merge other))

variable {a a' b b' : Word} {x y : NamedWord}

/-- What fits a named word fits one that accepts more. -/
theorem fits_of_accepts_imp (h : ∀ token, x.accepts token = true → y.accepts token = true)
    (hfits : (named x).fits b = true) : (named y).fits b = true := by
  cases b with
  | named w => exact NamedWord.overlaps_of_accepts_imp h hfits
  | none | any | unrecognized => exact hfits

theorem Grows.fits (h : Grows a a') (hfits : a.fits b = true) : a'.fits b = true := by
  induction h with
  | refl => exact hfits
  | addSynonym synonym _ ih =>
    refine fits_of_accepts_imp (fun token htoken => ?_) ih
    exact NamedWord.accepts_addSynonym_iff.2 (.inl htoken)
  | merge other _ ih =>
    refine fits_of_accepts_imp (fun token htoken => ?_) ih
    rw [NamedWord.accepts_merge, htoken, Bool.true_or]

theorem Grows.fits_both (ha : Grows a a') (hb : Grows b b') (hfits : a.fits b = true) :
    a'.fits b' = true := by
  have hleft := ha.fits hfits
  rw [fits_comm] at hleft ⊢
  exact hb.fits hleft

end Word

namespace Vocabulary

/-- A token is read as a word that fits each word that accepts it, if any word is
known that does. -/
theorem resolve_fits {v : Vocabulary} {token : String} {w : NamedWord}
    (hknown : ∃ known ∈ v.words, known.accepts token = true) (hw : w.accepts token = true) :
    (v.resolve token).fits (.named w) = true := by
  obtain ⟨first, hfirst⟩ := Option.isSome_iff_exists.1 (List.find?_isSome.2 hknown)
  have haccepts := List.find?_some hfirst
  have hfound : v.find? token = some first := hfirst
  rw [resolve, hfound]
  exact NamedWord.overlaps_of_accepts haccepts hw

end Vocabulary

namespace Word

/-- Words fit by the spellings they share.  The relation is symmetric, and named
words are in it exactly if there is a token that both accept, which is to say, if
something that went into the one and something that went into the other are alike
in upper case.  Words that fit go on to fit whatever either gains.  A token that
is known is read as a word that fits every word that accepts it, whichever word of
the vocabulary comes first. -/
theorem fits_by_shared_token :
    (∀ a b : Word, a.fits b = b.fits a) ∧
    (∀ x y : NamedWord, (named x).fits (named y) = true ↔
      ∃ token, x.accepts token = true ∧ y.accepts token = true) ∧
    (∀ c d : Coinage, (named c.word).fits (named d.word) = true ↔
      ∃ s ∈ c.tokens, ∃ t ∈ d.tokens, upper s = upper t) ∧
    (∀ a a' b b' : Word, a.Grows a' → b.Grows b' → a.fits b = true → a'.fits b' = true) ∧
    ∀ (v : Vocabulary) (token : String) (pattern : NamedWord), pattern.accepts token = true →
      (v.find? token).isSome = true → (v.resolve token).fits (named pattern) = true := by
  refine ⟨fits_comm, fun x y => NamedWord.overlaps_iff, Coinage.overlaps_word_iff,
    fun a a' b b' ha hb hfits => ha.fits_both hb hfits, ?_⟩
  intro v token pattern hpattern hknown
  exact Vocabulary.resolve_fits (List.find?_isSome.1 hknown) hpattern

/-- A street and a road that is also called so, but in other letters. -/
def Sample.street : NamedWord := .ofName "straße"

def Sample.road : NamedWord := .withSynonyms "road" ["Strasse"]

theorem fits_by_shared_token_sample :
    let v := Vocabulary.ofList [Sample.road, Sample.street]
    (named Sample.street).fits (named Sample.road) = true ∧
    (named (Sample.street.addSynonym "way")).fits
      (named (Sample.road.merge (.ofName "path"))) = true ∧
    Sample.street.accepts "strasse" = true ∧ v.resolve "strasse" = .named Sample.road ∧
    (v.resolve "strasse").fits (named Sample.street) = true := by
  intro v
  obtain ⟨-, hshared, -, hgrows, hresolve⟩ := fits_by_shared_token
  have haccepts : Sample.street.accepts "strasse" = true := by decide +kernel
  have hroad : Sample.road.accepts "strasse" = true := by decide +kernel
  have hfound : v.find? "strasse" = some Sample.road := List.find?_cons_of_pos hroad
  have hfits := (hshared Sample.street Sample.road).2 ⟨"strasse", haccepts, hroad⟩
  refine ⟨hfits, hgrows _ _ _ _ (.addSynonym "way" (.refl _)) (.merge (.ofName "path") (.refl _))
    hfits, haccepts, ?_, hresolve v "strasse" Sample.street haccepts ?_⟩
  · rw [Vocabulary.resolve, hfound]
  · rw [hfound]
    rfl

end Word
end TextAdventure
