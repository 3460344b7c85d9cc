/-
Vocabularies: the words an adventure knows, and how a line is read by them.
-/
import TextAdventure.Command
import TextAdventure.Text.Alphanumeric

namespace TextAdventure

open Text

/-- The known words, in the order in which they were first met.  Each name
occurs once. -/
structure Vocabulary where
  words : List NamedWord
  distinct : words.Pairwise fun a b => a.same b = false

namespace Vocabulary

def empty : Vocabulary := ⟨[], .nil⟩

instance : Inhabited Vocabulary := ⟨empty⟩

/-- Give the spellings of `word` to the word of its name, or put it last. -/
def absorb (word : NamedWord) : List NamedWord → List NamedWord
  | [] => [word]
  | known :: rest =>
    if known.same word then known.merge word :: rest else known :: absorb word rest

theorem name_of_mem_absorb {word w : NamedWord} :
    ∀ {l : List NamedWord}, w ∈ absorb word l → w.name = word.name ∨ ∃ v ∈ l, w.name = v.name
  | [], h => .inl (by rw [List.mem_singleton.1 h])
  | known :: rest, h => by
    rw [absorb] at h
    split at h
    · rcases List.mem_cons.1 h with rfl | h
      · exact .inr ⟨known, List.mem_cons_self, rfl⟩
      · exact .inr ⟨w, List.mem_cons_of_mem _ h, rfl⟩
    · rcases List.mem_cons.1 h with rfl | h
      · exact .inr ⟨w, List.mem_cons_self, rfl⟩
      · rcases name_of_mem_absorb h with h | ⟨v, hv, hw⟩
        · exact .inl h
        · exact .inr ⟨v, List.mem_cons_of_mem _ hv, hw⟩

theorem distinct_absorb (word : NamedWord) :
    ∀ {l : List NamedWord}, (l.Pairwise fun a b => a.same b = false) →
      (absorb word l).Pairwise fun a b => a.same b = false
  | [], _ => List.pairwise_singleton _ _
  | known :: rest, h => by
    obtain ⟨hknown, hrest⟩ := List.pairwise_cons.1 h
    rw [absorb]
    split
    · exact List.pairwise_cons.2 ⟨hknown, hrest⟩
    · next hne =>
      refine List.pairwise_cons.2 ⟨fun w hw => ?_, distinct_absorb word hrest⟩
      rcases name_of_mem_absorb hw with hw | ⟨v, hv, hw⟩
      · rw [NamedWord.same, hw]
        exact Bool.eq_false_iff.2 hne
      · rw [NamedWord.same, hw]
        exact hknown v hv

/-- Register a word.  One of a known name adds its spellings to that word. -/
def insert (v : Vocabulary) (word : NamedWord) : Vocabulary :=
  ⟨absorb word v.words, distinct_absorb word v.distinct⟩

/-- Register what is a named word; there is nothing to know of the others. -/
def insertWord (v : Vocabulary) : Word → Vocabulary
  | .named word => v.insert word
  | _ => v

def ofList (words : List NamedWord) : Vocabulary :=
  words.foldl insert empty

def merge (v other : Vocabulary) : Vocabulary :=
  other.words.foldl insert v

/-- The first word that accepts a token. -/
def find? (v : Vocabulary) (token : String) : Option NamedWord :=
  v.words.find? (·.accepts token)

def get? (v : Vocabulary) (name : String) : Option NamedWord :=
  v.words.find? fun w => sameName w.name name

def resolve (v : Vocabulary) (token : String) : Word :=
  match v.find? token with
  | some word => .named word
  | none => .unrecognized

/-- The tokens of a line: what stands between blanks, less the punctuation
around it.  What is punctuation alone is no token. -/
def tokens (line : String) : List String :=
  (((fields isBlank line.toList).map (strip fun c => !isAlphanumeric c)).filter
    (!·.isEmpty)).map String.ofList

def parse (v : Vocabulary) (line : String) : Command :=
  ⟨(tokens line).map v.resolve, tokens line⟩

end Vocabulary

end TextAdventure
