/-
Spellings, as the player types them.

A script may spell its words with any characters, and only the blanks around a
spelling are dropped.  A line is cut at its blanks, and each piece loses the
punctuation at its ends.  What is one token to begin with comes out as it was: such
a spelling can be typed, in any case and with punctuation around it.  No other
spelling reaches the vocabulary as it was written.
-/
import TextAdventure.Proofs.Script.Directions

namespace TextAdventure

open Text

namespace Text

end Text

/-! ## Lines of one token -/

namespace Vocabulary

end Vocabulary

/-- Whether a line is read as one word, and one that fits. -/
def Adventure.readsAs (a : Adventure) (line : String) (w : NamedWord) : Bool :=
  match (a.vocabulary.parse line).words with
  | [word] => word.fits (.named w)
  | _ => false

namespace Script

/-- How a declaration spells its word: by the name and the synonyms of a word, and
by the aliases of an item. -/
def Declaration.spellings : Declaration → List String
  | .word decl => decl.name.node :: decl.synonyms
  | .item decl => decl.aliases
  | _ => []

/-- Whether a spelling of a word can be typed.  The word is meant as it is
declared, or as the vocabulary has it, with the spellings of all words of its
name. -/
structure Typed (a : Adventure) (declared : NamedWord) (spelling : String) : Prop where
  spelled : declared.accepts (trim spelling) = true
  known : ∃ w ∈ a.vocabulary.words, w.same declared = true
  word : Vocabulary.IsToken (trim spelling).toList →
    ∀ w, w = declared ∨ w ∈ a.vocabulary.words ∧ w.same declared = true →
      a.readsAs spelling w = true
  around : ∀ line token, Vocabulary.tokens line = [token] →
    upper token = upper (trim spelling) →
    ∀ w, w = declared ∨ w ∈ a.vocabulary.words ∧ w.same declared = true →
      a.readsAs line w = true
  whole : Vocabulary.tokens spelling = [trim spelling] ↔
    Vocabulary.IsToken (trim spelling).toList

namespace Tree

variable {tree : Tree} {d : Declaration} {declared : NamedWord}

variable {a : Adventure} {spelling : String}

end Tree

/-- A script with a spelling of two words, one that ends with a question mark, and a
name that ends with a line. -/
def Sample.spelled : String :=
  "room Hall \"A hall.\" word take \" Grab\" \"pick up\" word help \"what?\" word end_"

end Script
end TextAdventure
