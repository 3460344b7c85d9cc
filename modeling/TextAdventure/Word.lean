/-
The words of commands and of patterns.
-/
import TextAdventure.Table
import TextAdventure.Text.AsciiCase
import TextAdventure.Text.Blank
import TextAdventure.Text.Uppercase

namespace TextAdventure

open Text

/-- A word that a vocabulary knows, with every spelling that counts as it.
Spellings are kept in upper case, and the name is one of them. -/
structure NamedWord where
  name : String
  spellings : NameSet
  name_mem : spellings.contains (upper name) = true
  /-- What no text becomes in upper case could be kept but never be typed. -/
  typeable : ∀ s, spellings.contains s = true → ∃ token, upper token = s

namespace NamedWord

/-- The word that is spelled as it is named and in no other way. -/
def ofName (name : String) : NamedWord where
  name
  spellings := NameSet.insert .empty (upper name)
  name_mem := by simp [NameSet.contains_insert]
  typeable s h := by
    rw [NameSet.contains_insert] at h
    exact ⟨name, by simpa [Table.contains] using (Eq.comm.1 (by simpa [Table.contains] using h))⟩

def addSpelling (w : NamedWord) (token : String) : NamedWord where
  name := w.name
  spellings := NameSet.insert w.spellings (upper token)
  name_mem := by simp [NameSet.contains_insert, w.name_mem]
  typeable s h := by
    rw [NameSet.contains_insert, Bool.or_eq_true, decide_eq_true_eq] at h
    rcases h with h | h
    · exact ⟨token, h.symm⟩
    · exact w.typeable s h

/-- Add a spelling, less the blanks around it.  A blank text adds none. -/
def addSynonym (w : NamedWord) (synonym : String) : NamedWord :=
  if trim synonym = "" then w else w.addSpelling (trim synonym)

def withSynonyms (name : String) (synonyms : List String) : NamedWord :=
  synonyms.foldl addSynonym (ofName name)

def merge (w other : NamedWord) : NamedWord where
  name := w.name
  spellings := w.spellings.union other.spellings
  name_mem := by simp [NameSet.contains_union, w.name_mem]
  typeable s h := by
    rw [NameSet.contains_union, Bool.or_eq_true] at h
    exact h.elim (w.typeable s) (other.typeable s)

/-- Whether a token, in any case, is one of the spellings. -/
def accepts (w : NamedWord) (token : String) : Bool :=
  w.spellings.contains (upper token)

def overlaps (w other : NamedWord) : Bool :=
  w.spellings.meets other.spellings

/-- Two words are the same when their names are, whatever their spellings. -/
def same (w other : NamedWord) : Bool :=
  sameName w.name other.name

end NamedWord

/-- What may stand at one position of a command or of a pattern. -/
inductive Word where
  | none
  /-- Any word, in a pattern. -/
  | any
  /-- A token that the vocabulary does not know. -/
  | unrecognized
  | named (word : NamedWord)

namespace Word

/-- Whether one word may stand where the other is asked for.  Named words do so
when they share a spelling; the relation is symmetric. -/
def fits : Word → Word → Bool
  | .none, .none => true
  | .none, _ => false
  | _, .none => false
  | .any, _ => true
  | _, .any => true
  | .unrecognized, .unrecognized => true
  | .named a, .named b => a.overlaps b
  | .unrecognized, .named _ => false
  | .named _, .unrecognized => false

def same : Word → Word → Bool
  | .none, .none => true
  | .any, .any => true
  | .unrecognized, .unrecognized => true
  | .named a, .named b => a.same b
  | _, _ => false

def isSentinel : Word → Bool
  | .named _ => false
  | _ => true

def name : Word → String
  | .none => "NONE"
  | .any => "ANY"
  | .unrecognized => "UNRECOGNIZED"
  | .named word => word.name

def isUnrecognized : Word → Bool
  | .unrecognized => true
  | _ => false

end Word

end TextAdventure
