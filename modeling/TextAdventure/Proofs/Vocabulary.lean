/-
Vocabularies: what it comes to that words are registered one after the other.

A word of a name that is known gives its spellings to the word of that name, so
that registering it can change which word a token is read as.  Not so where the
words of one name have the same spellings: then a known word is left as it is,
and the others are put last.
-/
import TextAdventure.Proofs.Words

namespace TextAdventure

open Text

/-! ## Spellings -/

namespace NameSet

theorem insertEntry_of_mem {name : String} {l : List (String × Unit)}
    (hl : l.Pairwise fun a b => a.1 < b.1) (h : (name, ()) ∈ l) :
    Table.insertEntry name () l = l := by
  induction l with
  | nil => exact absurd h List.not_mem_nil
  | cons entry rest ih =>
    obtain ⟨key, _⟩ := entry
    obtain ⟨hkey, hrest⟩ := List.pairwise_cons.1 hl
    rw [Table.insertEntry]
    rcases List.mem_cons.1 h with heq | hmem
    · rw [if_pos (congrArg Prod.fst heq), heq]
    · have hlt : key < name := hkey _ hmem
      have hne : name ≠ key := fun heq => absurd hlt (heq ▸ String.lt_irrefl name)
      have hpast : ¬ name < key := fun hback => String.lt_irrefl _ (String.lt_trans hlt hback)
      rw [if_neg hne, if_neg hpast, ih hrest hmem]

theorem insert_of_contains {s : NameSet} {name : String} (h : Table.contains s name = true) :
    insert s name = s := by
  obtain ⟨entry, hentry, rfl⟩ := List.mem_map.1 ((Table.contains_iff_mem_names s name).1 h)
  have hentries : Table.insertEntry entry.1 () s.entries = s.entries :=
    insertEntry_of_mem s.sorted hentry
  show Table.mk (Table.insertEntry entry.1 () s.entries) _ = s
  simp only [hentries]

theorem foldl_insert_of_contains {names : List String} {s : NameSet}
    (h : ∀ name ∈ names, Table.contains s name = true) : names.foldl insert s = s := by
  induction names with
  | nil => rfl
  | cons name rest ih =>
    obtain ⟨hname, hrest⟩ := List.forall_mem_cons.1 h
    rw [List.foldl_cons, insert_of_contains hname, ih hrest]

end NameSet

namespace NamedWord

theorem spellings_contains_iff {w : NamedWord} {spelling : String} :
    w.spellings.contains spelling = true ↔
      ∃ token, upper token = spelling ∧ w.accepts token = true := by
  constructor
  · intro h
    obtain ⟨token, rfl⟩ := w.typeable spelling h
    exact ⟨token, rfl, h⟩
  · rintro ⟨token, rfl, h⟩
    exact h

/-- A word gains nothing from one whose spellings it has. -/
theorem merge_of_accepts {w other : NamedWord}
    (h : ∀ token, other.accepts token = true → w.accepts token = true) : w.merge other = w := by
  have hunion : w.spellings.union other.spellings = w.spellings := by
    refine NameSet.foldl_insert_of_contains fun spelling hspelling => ?_
    have hother := (Table.contains_iff_mem_names _ _).2 hspelling
    obtain ⟨token, htoken, haccepts⟩ := spellings_contains_iff.1 hother
    exact spellings_contains_iff.2 ⟨token, htoken, h token haccepts⟩
  cases w
  simp only [merge, mk.injEq, true_and]
  exact hunion

theorem accepts_merge (w other : NamedWord) (token : String) :
    (w.merge other).accepts token = (w.accepts token || other.accepts token) :=
  NameSet.contains_union _ _ _

/-- Words that accept one token fit. -/
theorem overlaps_of_accepts {a b : NamedWord} {token : String} (ha : a.accepts token = true)
    (hb : b.accepts token = true) : a.overlaps b = true :=
  List.any_eq_true.2 ⟨upper token, (Table.contains_iff_mem_names _ _).1 ha, hb⟩

end NamedWord

namespace Vocabulary

/-! ## Words of one name -/

variable {word w : NamedWord} {l : List NamedWord}

/-- What is there after a word has been registered: the words of other names as
they were, and one of its own name. -/
theorem mem_absorb (hl : l.Pairwise fun a b => a.same b = false) (h : w ∈ absorb word l) :
    (w ∈ l ∧ w.same word = false) ∨
    (∃ known ∈ l, known.same word = true ∧ w = known.merge word) ∨
    (w = word ∧ ∀ known ∈ l, known.same word = false) := by
  induction l with
  | nil => exact .inr (.inr ⟨List.mem_singleton.1 h, List.forall_mem_nil _⟩)
  | cons known rest ih =>
    obtain ⟨hknown, hrest⟩ := List.pairwise_cons.1 hl
    rw [absorb] at h
    split at h
    · next hsame =>
      rcases List.mem_cons.1 h with rfl | h
      · exact .inr (.inl ⟨known, List.mem_cons_self, hsame, rfl⟩)
      · refine .inl ⟨List.mem_cons_of_mem _ h, ?_⟩
        rw [← NamedWord.same_congr_right hsame, NamedWord.same_comm]
        exact hknown w h
    · next hne =>
      rcases List.mem_cons.1 h with rfl | h
      · exact .inl ⟨List.mem_cons_self, Bool.eq_false_iff.2 hne⟩
      · rcases ih hrest h with ⟨hw, hother⟩ | ⟨v, hv, hmerged⟩ | ⟨hw, hnew⟩
        · exact .inl ⟨List.mem_cons_of_mem _ hw, hother⟩
        · exact .inr (.inl ⟨v, List.mem_cons_of_mem _ hv, hmerged⟩)
        · exact .inr (.inr ⟨hw, List.forall_mem_cons.2 ⟨Bool.eq_false_iff.2 hne, hnew⟩⟩)

/-- Put a name last, unless one that is the same is there. -/
def enlist (names : List String) (name : String) : List String :=
  if names.any (sameName · name) then names else names ++ [name]

theorem names_absorb (word : NamedWord) (l : List NamedWord) :
    (absorb word l).map (·.name) = enlist (l.map (·.name)) word.name := by
  induction l with
  | nil => rfl
  | cons known rest ih =>
    rw [absorb, List.map_cons, enlist, List.any_cons]
    split
    · next hsame =>
      have hfirst : sameName known.name word.name = true := hsame
      rw [hfirst, Bool.true_or, if_pos rfl]
      rfl
    · next hne =>
      have hfirst : sameName known.name word.name = false := Bool.eq_false_iff.2 hne
      rw [hfirst, Bool.false_or, List.map_cons, ih, enlist]
      split <;> rfl

theorem exists_same_absorb (word : NamedWord) (l : List NamedWord) {g : NamedWord}
    (h : g = word ∨ ∃ known ∈ l, known.same g = true) :
    ∃ w ∈ absorb word l, w.same g = true := by
  induction l with
  | nil =>
    rcases h with rfl | ⟨known, hknown, -⟩
    · exact ⟨g, List.mem_singleton_self g, g.same_refl⟩
    · exact absurd hknown List.not_mem_nil
  | cons first rest ih =>
    rw [absorb]
    split
    · next hsame =>
      rcases h with rfl | ⟨known, hknown, hg⟩
      · exact ⟨_, List.mem_cons_self, hsame⟩
      · rcases List.mem_cons.1 hknown with rfl | hknown
        · exact ⟨_, List.mem_cons_self, hg⟩
        · exact ⟨known, List.mem_cons_of_mem _ hknown, hg⟩
    · rcases h with rfl | ⟨known, hknown, hg⟩
      · obtain ⟨w, hw, hwg⟩ := ih (.inl rfl)
        exact ⟨w, List.mem_cons_of_mem _ hw, hwg⟩
      · rcases List.mem_cons.1 hknown with rfl | hknown
        · exact ⟨known, List.mem_cons_self, hg⟩
        · obtain ⟨w, hw, hwg⟩ := ih (.inr ⟨known, hknown, hg⟩)
          exact ⟨w, List.mem_cons_of_mem _ hw, hwg⟩

/-- Whether words are those that are given, one for each name, in the order of
their first mention and with the spellings of all that have the name. -/
structure Merges (given merged : List NamedWord) : Prop where
  names : merged.map (·.name) = (given.map (·.name)).foldl enlist []
  complete : ∀ g ∈ given, ∃ w ∈ merged, w.same g = true
  accepts : ∀ w ∈ merged, ∀ token,
    w.accepts token = given.any fun g => g.same w && g.accepts token

theorem Merges.accepts_iff {given merged : List NamedWord} (h : Merges given merged)
    {w : NamedWord} (hw : w ∈ merged) {token : String} :
    w.accepts token = true ↔ ∃ g ∈ given, g.same w = true ∧ g.accepts token = true := by
  rw [h.accepts w hw, List.any_eq_true]
  simp only [Bool.and_eq_true]

theorem Merges.insert {given : List NamedWord} {v : Vocabulary} (h : Merges given v.words)
    (word : NamedWord) : Merges (given ++ [word]) (v.insert word).words where
  names := by
    rw [List.map_append, List.foldl_append, ← h.names]
    exact names_absorb word v.words
  complete g hg := by
    refine exists_same_absorb word v.words ?_
    rcases List.mem_append.1 hg with hg | hg
    · exact .inr (h.complete g hg)
    · exact .inl (List.mem_singleton.1 hg)
  accepts w hw token := by
    rw [List.any_append, List.any_cons, List.any_nil, Bool.or_false]
    rcases mem_absorb v.distinct hw with ⟨hw, hother⟩ | ⟨known, hknown, hsame, rfl⟩ | ⟨rfl, hnew⟩
    · have hback : word.same w = false := (NamedWord.same_comm word w).trans hother
      rw [h.accepts w hw, hback, Bool.false_and, Bool.or_false]
    · have hback : word.same known = true := NamedWord.same_symm hsame
      rw [NamedWord.accepts_merge, h.accepts known hknown]
      show _ = (_ || (word.same known && word.accepts token))
      rw [hback, Bool.true_and]
      rfl
    · have hnone : (given.any fun g => g.same w && g.accepts token) = false := by
        rw [List.any_eq_false]
        intro g hg haccepts
        obtain ⟨known, hknown, hkg⟩ := h.complete g hg
        have hkw := NamedWord.same_trans hkg (Bool.and_eq_true_iff.1 haccepts).1
        exact absurd hkw (Bool.eq_false_iff.1 (hnew known hknown))
      rw [hnone, w.same_refl, Bool.true_and, Bool.false_or]

theorem Merges.foldl_insert {given : List NamedWord} {v : Vocabulary} (h : Merges given v.words)
    (ws : List NamedWord) : Merges (given ++ ws) (ws.foldl Vocabulary.insert v).words := by
  induction ws generalizing given v with
  | nil =>
    rw [List.append_nil]
    exact h
  | cons word rest ih =>
    rw [List.append_cons]
    exact ih (h.insert word)

theorem merges_ofList (ws : List NamedWord) : Merges ws (ofList ws).words :=
  Merges.foldl_insert ⟨rfl, List.forall_mem_nil _, List.forall_mem_nil _⟩ ws

theorem mem_enlist {names : List String} {fresh name : String} (h : name ∈ enlist names fresh) :
    name ∈ names ∨ name = fresh ∧ names.any (sameName · fresh) = false := by
  rw [enlist] at h
  split at h
  · exact .inl h
  · next hnew =>
    exact (List.mem_append.1 h).imp_right fun hfresh =>
      ⟨List.mem_singleton.1 hfresh, Bool.eq_false_iff.2 hnew⟩

theorem mem_of_mem_foldl_enlist {names known : List String} {name : String}
    (h : name ∈ names.foldl enlist known) : name ∈ known ∨ name ∈ names := by
  induction names generalizing known with
  | nil => exact .inl h
  | cons first rest ih =>
    rcases ih h with hknown | hrest
    · exact (mem_enlist hknown).imp_right fun hfirst => List.mem_cons.2 (.inl hfirst.1)
    · exact .inr (List.mem_cons_of_mem _ hrest)

/-- A word goes by the name of one that was registered. -/
theorem exists_name_of_mem_ofList {words : List NamedWord} {w : NamedWord}
    (h : w ∈ (ofList words).words) : ∃ given ∈ words, given.name = w.name := by
  have hname := List.mem_map_of_mem (f := (·.name)) h
  rw [(merges_ofList words).names] at hname
  exact List.mem_map.1 ((mem_of_mem_foldl_enlist hname).resolve_left List.not_mem_nil)

/-! ## Families of words -/

variable {P : NamedWord → Prop}

end Vocabulary
end TextAdventure
