/-
Vocabularies as they grow.

However words are registered, one at a time or with the vocabularies they were
registered in before, the outcome is that of all of them put in a row: one word of
each name, in the order of the names and as each was first written, with the
spellings of all the words of that name.  Nothing is lost, and what was merged
before adds nothing.
-/
import Mathlib.Data.List.Induction
import TextAdventure.Proofs.Vocabulary

namespace TextAdventure

open Text

namespace Vocabulary

variable {v other : Vocabulary} {word : NamedWord} {l given more : List NamedWord}
  {names known : List String} {name : String}

theorem absorb_of_accepts (hknown : ∃ w ∈ l, w.same word = true)
    (h : ∀ w ∈ l, w.same word = true → ∀ token, word.accepts token = true →
      w.accepts token = true) : absorb word l = l := by
  induction l with
  | nil =>
    obtain ⟨w, hw, -⟩ := hknown
    exact absurd hw List.not_mem_nil
  | cons first rest ih =>
    obtain ⟨hfirst, hrest⟩ := List.forall_mem_cons.1 h
    rw [absorb]
    by_cases hsame : first.same word = true
    · rw [if_pos hsame, NamedWord.merge_of_accepts (hfirst hsame)]
    · obtain ⟨w, hw, hwsame⟩ := hknown
      rcases List.mem_cons.1 hw with rfl | hw
      · exact absurd hwsame hsame
      · rw [if_neg hsame, ih ⟨w, hw, hwsame⟩ hrest]

/-! ## Names put last -/

theorem any_foldl_enlist : (names.foldl enlist known).any (sameName · name) =
    (known.any (sameName · name) || names.any (sameName · name)) := by
  induction names generalizing known with
  | nil => simp
  | cons first rest ih =>
    rw [List.foldl_cons, ih, List.any_cons, ← Bool.or_assoc]
    congr 1
    rw [enlist]
    split
    · next hthere =>
      -- what is named like the first is named like one that is there
      obtain ⟨there, hmem, hfirst⟩ := List.any_eq_true.1 hthere
      rw [Bool.eq_iff_iff, Bool.or_eq_true]
      refine ⟨.inl, fun h => h.elim id fun hname => ?_⟩
      exact List.any_eq_true.2 ⟨there, hmem, sameName_trans hfirst hname⟩
    · simp

/-- Names of a list that was made by putting names last are put last as those
were. -/
theorem foldl_enlist_foldl_enlist {fresh : List String} :
    (names.foldl enlist fresh).foldl enlist known =
      names.foldl enlist (fresh.foldl enlist known) := by
  induction names generalizing fresh with
  | nil => rfl
  | cons first rest ih =>
    rw [List.foldl_cons, List.foldl_cons, ih]
    congr 1
    by_cases hthere : fresh.any (sameName · first) = true
    · have hknown : (fresh.foldl enlist known).any (sameName · first) = true := by
        rw [any_foldl_enlist, hthere, Bool.or_true]
      rw [enlist, if_pos hthere, enlist, if_pos hknown]
    · rw [enlist, if_neg hthere, List.foldl_append]
      rfl

/-- A name that was put last is the first of its kind. -/
theorem exists_first_of_mem_foldl_enlist (h : name ∈ names.foldl enlist []) :
    ∃ before after, names = before ++ name :: after ∧
      ∀ earlier ∈ before, sameName earlier name = false := by
  induction names using List.reverseRecOn with
  | nil => exact absurd h List.not_mem_nil
  | append_singleton rest last ih =>
    rw [List.foldl_append] at h
    rcases mem_enlist h with hrest | ⟨rfl, hnew⟩
    · obtain ⟨before, after, rfl, hbefore⟩ := ih hrest
      exact ⟨before, after ++ [last], List.append_assoc before (name :: after) [last], hbefore⟩
    · rw [any_foldl_enlist, List.any_nil, Bool.false_or, List.any_eq_false] at hnew
      exact ⟨rest, [], rfl, fun earlier hearlier => Bool.eq_false_iff.2 (hnew earlier hearlier)⟩

/-! ## Vocabularies merged -/

theorem Merges.any_accepts (h : Merges given l) (w : NamedWord) (token : String) :
    (l.any fun u => u.same w && u.accepts token) =
      given.any fun g => g.same w && g.accepts token := by
  rw [Bool.eq_iff_iff, List.any_eq_true, List.any_eq_true]
  simp only [Bool.and_eq_true]
  constructor
  · rintro ⟨u, hu, huw, htoken⟩
    obtain ⟨g, hg, hgu, hgtoken⟩ := (h.accepts_iff hu).1 htoken
    exact ⟨g, hg, NamedWord.same_trans hgu huw, hgtoken⟩
  · rintro ⟨g, hg, hgw, htoken⟩
    obtain ⟨u, hu, hug⟩ := h.complete g hg
    exact ⟨u, hu, NamedWord.same_trans hug hgw,
      (h.accepts_iff hu).2 ⟨g, hg, NamedWord.same_symm hug, htoken⟩⟩

theorem Merges.exists_accepts_iff (h : Merges given l) (token : String) :
    (∃ w ∈ l, w.accepts token = true) ↔ ∃ g ∈ given, g.accepts token = true := by
  constructor
  · rintro ⟨w, hw, htoken⟩
    obtain ⟨g, hg, -, hgtoken⟩ := (h.accepts_iff hw).1 htoken
    exact ⟨g, hg, hgtoken⟩
  · rintro ⟨g, hg, htoken⟩
    obtain ⟨w, hw, hwg⟩ := h.complete g hg
    exact ⟨w, hw, (h.accepts_iff hw).2 ⟨g, hg, NamedWord.same_symm hwg, htoken⟩⟩

/-- A word goes by the name of the first one that was given of its name. -/
theorem Merges.exists_first (h : Merges given l) {w : NamedWord} (hw : w ∈ l) :
    ∃ before first after, given = before ++ first :: after ∧ first.name = w.name ∧
      ∀ earlier ∈ before, earlier.same w = false := by
  have hname : w.name ∈ (given.map (·.name)).foldl enlist [] := by
    rw [← h.names]
    exact List.mem_map_of_mem hw
  obtain ⟨names, rest, hnames, hfirst⟩ := exists_first_of_mem_foldl_enlist hname
  obtain ⟨before, others, rfl, rfl, hothers⟩ := List.map_eq_append_iff.1 hnames
  obtain ⟨first, after, rfl, hfirstname, -⟩ := List.map_eq_cons_iff.1 hothers
  exact ⟨before, first, after, rfl, hfirstname,
    fun earlier hearlier => hfirst earlier.name (List.mem_map_of_mem hearlier)⟩

/-- Merging a vocabulary is registering every word that was registered in it. -/
theorem Merges.merge (h : Merges given v.words) (hother : Merges more other.words) :
    Merges (given ++ more) (v.merge other).words := by
  have hall := h.foldl_insert other.words
  constructor
  case names =>
    refine hall.names.trans ?_
    rw [List.map_append, List.map_append, List.foldl_append, List.foldl_append, hother.names]
    exact foldl_enlist_foldl_enlist
  case complete =>
    refine List.forall_mem_append.2
      ⟨fun g hg => hall.complete g (List.mem_append_left _ hg), fun g hg => ?_⟩
    obtain ⟨u, hu, hug⟩ := hother.complete g hg
    obtain ⟨w, hw, hwu⟩ := hall.complete u (List.mem_append_right _ hu)
    exact ⟨w, hw, NamedWord.same_trans hwu hug⟩
  case accepts =>
    intro w hw token
    rw [hall.accepts w hw, List.any_append, List.any_append, hother.any_accepts]

theorem Merges.insert_eq (h : Merges given v.words)
    (hword : ∀ token, word.accepts token = true →
      ∃ g ∈ given, g.same word = true ∧ g.accepts token = true) : v.insert word = v := by
  have hwords : absorb word v.words = v.words := by
    apply absorb_of_accepts
    · obtain ⟨g, hg, hgword, -⟩ := hword word.name word.name_mem
      obtain ⟨w, hw, hwg⟩ := h.complete g hg
      exact ⟨w, hw, NamedWord.same_trans hwg hgword⟩
    · intro w hw hwword token htoken
      obtain ⟨g, hg, hgword, hgtoken⟩ := hword token htoken
      exact (h.accepts_iff hw).2
        ⟨g, hg, NamedWord.same_trans hgword (NamedWord.same_symm hwword), hgtoken⟩
  show Vocabulary.mk (absorb word v.words) _ = v
  simp only [hwords]

/-- Words that were registered before change nothing. -/
theorem Merges.merge_eq (h : Merges given v.words) (hother : Merges more other.words)
    (hmore : ∀ g ∈ more, g ∈ given) : v.merge other = v := by
  have hinsert : ∀ u ∈ other.words, v.insert u = v := by
    refine fun u hu => h.insert_eq fun token htoken => ?_
    obtain ⟨g, hg, hgu⟩ := (hother.accepts_iff hu).1 htoken
    exact ⟨g, hmore g hg, hgu⟩
  rw [Vocabulary.merge]
  generalize other.words = words at hinsert
  induction words with
  | nil => rfl
  | cons first rest ih =>
    obtain ⟨hfirst, hrest⟩ := List.forall_mem_cons.1 hinsert
    rw [List.foldl_cons, hfirst, ih hrest]

/-! ## Histories of vocabularies -/

/-- How a vocabulary came about.  The one that is merged has a history as well. -/
inductive Growth where
  | empty
  | collect (words : List NamedWord)
  | insert (g : Growth) (word : NamedWord)
  | insertWord (g : Growth) (word : Word)
  | merge (g other : Growth)

namespace Growth

def vocabulary : Growth → Vocabulary
  | .empty => .empty
  | .collect words => .ofList words
  | .insert g word => g.vocabulary.insert word
  | .insertWord g word => g.vocabulary.insertWord word
  | .merge g other => g.vocabulary.merge other.vocabulary

/-- The words that were registered, from first to last, those of a merged
vocabulary when it was merged. -/
def inserted : Growth → List NamedWord
  | .empty => []
  | .collect words => words
  | .insert g word => g.inserted ++ [word]
  | .insertWord g (.named word) => g.inserted ++ [word]
  | .insertWord g _ => g.inserted
  | .merge g other => g.inserted ++ other.inserted

theorem merges (g : Growth) : Merges g.inserted g.vocabulary.words := by
  induction g with
  | empty => exact merges_ofList []
  | collect words => exact merges_ofList words
  | insert g word ih => exact ih.insert word
  | insertWord g word ih =>
    cases word with
    | named word => exact ih.insert word
    | none | any | unrecognized => exact ih
  | merge g other ih ihother => exact ih.merge ihother

/-- Whether a vocabulary is the union of the words that were registered in it. -/
structure Lossless (g : Growth) : Prop where
  distinct : g.vocabulary.words.Pairwise fun a b => sameName a.name b.name = false
  sentinels : ∀ word : Word, word.isSentinel = true →
    (g.insertWord word).vocabulary = g.vocabulary
  order : g.vocabulary.words.map (·.name) = (g.inserted.map (·.name)).foldl enlist []
  written : ∀ w ∈ g.vocabulary.words, ∃ before first after,
    g.inserted = before ++ first :: after ∧ first.name = w.name ∧
      ∀ earlier ∈ before, sameName earlier.name w.name = false
  spellings : ∀ w ∈ g.vocabulary.words, ∀ spelling, w.spellings.contains spelling = true ↔
    ∃ word ∈ g.inserted, sameName word.name w.name = true ∧
      word.spellings.contains spelling = true
  named : ∀ w ∈ g.vocabulary.words, w.spellings.contains (upper w.name) = true
  found : ∀ token, (g.vocabulary.find? token).isSome = true ↔
    ∃ word ∈ g.inserted, word.accepts token = true
  first : ∀ token w, g.vocabulary.find? token = some w →
    w.accepts token = true ∧ ∃ before after, g.vocabulary.words = before ++ w :: after ∧
      ∀ known ∈ before, known.accepts token = false
  again : ∀ other : Growth, (∀ word ∈ other.inserted, word ∈ g.inserted) →
    (g.merge other).vocabulary = g.vocabulary
  twice : ∀ other : Growth, ((g.merge other).merge other).vocabulary = (g.merge other).vocabulary

/-- Registering words loses none of them, in whatever order and from however many
vocabularies they come. -/
theorem lossless (g : Growth) : g.Lossless := by
  have hmerges := g.merges
  have hagain : ∀ g other : Growth, (∀ word ∈ other.inserted, word ∈ g.inserted) →
      (g.merge other).vocabulary = g.vocabulary :=
    fun g other h => g.merges.merge_eq other.merges h
  constructor
  case distinct => exact g.vocabulary.distinct
  case sentinels =>
    intro word hword
    cases word with
    | named word => exact absurd hword Bool.false_ne_true
    | none | any | unrecognized => rfl
  case order => exact hmerges.names
  case written => exact fun w hw => hmerges.exists_first hw
  case spellings =>
    intro w hw spelling
    constructor
    · intro h
      obtain ⟨token, rfl, htoken⟩ := NamedWord.spellings_contains_iff.1 h
      exact (hmerges.accepts_iff hw).1 htoken
    · rintro ⟨word, hword, hsame, h⟩
      obtain ⟨token, rfl, htoken⟩ := NamedWord.spellings_contains_iff.1 h
      exact (hmerges.accepts_iff hw).2 ⟨word, hword, hsame, htoken⟩
  case named => exact fun w _ => w.name_mem
  case found =>
    intro token
    rw [find?, List.find?_isSome]
    exact hmerges.exists_accepts_iff token
  case first =>
    intro token w h
    obtain ⟨haccepts, before, after, hwords, hbefore⟩ := List.find?_eq_some_iff_append.1 h
    refine ⟨haccepts, before, after, hwords, fun known hknown => ?_⟩
    simpa using hbefore known hknown
  case again => exact hagain g
  case twice =>
    exact fun other => hagain (g.merge other) other fun word hword => List.mem_append_right _ hword

end Growth
end Vocabulary
end TextAdventure
